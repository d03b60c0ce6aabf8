namespace SerialPanel

def squareRootDigits : Nat → Nat → Nat
  | 0, _ => 0
  | digits + 1, n =>
    let root := 2 * squareRootDigits digits (n / 4)
    if (root + 1) * (root + 1) ≤ n then root + 1 else root

def squareRoot (n : Nat) : Nat := squareRootDigits (n.log2 / 2 + 1) n

theorem squareRootDigits_bounds (digits n : Nat) (fits : n < Nat.pow 4 digits) :
    squareRootDigits digits n * squareRootDigits digits n ≤ n ∧
      n < (squareRootDigits digits n + 1) * (squareRootDigits digits n + 1) := by
  induction digits generalizing n with
  | zero =>
    have one : Nat.pow 4 0 = 1 := rfl
    simp only [squareRootDigits]
    omega
  | succ digits ih =>
    have more : Nat.pow 4 (digits + 1) = Nat.pow 4 digits * 4 := rfl
    have quarter : n / 4 < Nat.pow 4 digits := by omega
    obtain ⟨low, high⟩ := ih _ quarter
    generalize hr : squareRootDigits digits (n / 4) = r at low high
    have square : (r + 1) * (r + 1) = r * r + 2 * r + 1 := by
      simp [Nat.add_mul, Nat.mul_add]; omega
    have even : (2 * r) * (2 * r) = 4 * (r * r) := by
      rw [Nat.mul_mul_mul_comm]
    have odd : (2 * r + 1) * (2 * r + 1) = 4 * (r * r) + 4 * r + 1 := by
      simp [Nat.add_mul, Nat.mul_add, even]; omega
    have next : (2 * r + 1 + 1) * (2 * r + 1 + 1) = 4 * (r * r) + 8 * r + 4 := by
      simp [Nat.add_mul, Nat.mul_add, even]; omega
    simp only [squareRootDigits, hr]
    split <;> constructor <;> omega

theorem pow_four (digits : Nat) : Nat.pow 4 digits = Nat.pow 2 (2 * digits) := by
  induction digits with
  | zero => rfl
  | succ digits ih =>
    have four : Nat.pow 4 (digits + 1) = Nat.pow 4 digits * 4 := rfl
    have two : Nat.pow 2 (2 * (digits + 1)) = Nat.pow 2 (2 * digits) * 2 * 2 := rfl
    omega

theorem squareRoot_bounds (n : Nat) :
    squareRoot n * squareRoot n ≤ n ∧ n < (squareRoot n + 1) * (squareRoot n + 1) := by
  refine squareRootDigits_bounds _ n (Nat.lt_of_lt_of_le Nat.lt_log2_self ?_)
  rw [pow_four]
  exact Nat.pow_le_pow_right (by omega) (by omega)

theorem squareRoot_unique (n root : Nat) (low : root * root ≤ n) (high : n < (root + 1) * (root + 1)) :
    squareRoot n = root := by
  obtain ⟨below, above⟩ := squareRoot_bounds n
  rcases Nat.lt_trichotomy (squareRoot n) root with less | same | more
  · have step : squareRoot n + 1 ≤ root := less
    have := Nat.mul_le_mul step step
    omega
  · exact same
  · have step : root + 1 ≤ squareRoot n := more
    have := Nat.mul_le_mul step step
    omega

end SerialPanel
