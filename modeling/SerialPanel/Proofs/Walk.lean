import Mathlib.Algebra.BigOperators.Intervals
import Mathlib.Order.Bounds.Basic
import SerialPanel.Proofs.Ring
namespace SerialPanel

namespace Circle

def Wide (value : Int) : Prop := -0x8000000000000000 ≤ value ∧ value ≤ 0x7FFFFFFFFFFFFFFF

-- One turn of the loop, with every number on its way. The root is told by its two bounds
-- and taken of a number that is not negative; what is drawn is cut down to 32 bits.
structure Turn (radius stride a b : Int) : Prop where
  square : Wide (radius * radius)
  inner : Wide (a * a)
  difference : Wide (radius * radius - a * a)
  rootable : 0 ≤ radius * radius - a * a
  rooted : ∃ root, 0 ≤ root ∧ root * root ≤ radius * radius - a * a ∧
    radius * radius - a * a < (root + 1) * (root + 1) ∧ Wide root ∧ b = if a = 0 then root - 1 else root
  height : Wide b
  drawn : ∀ value ∈ [a, b, -a, -b], Narrow value
  onward : Wide (a + stride)

inductive Walks (radius stride : Int) : Int → Int → List (Int × Int) → Prop where
  | past (beyond : last < a) : Walks radius stride a last []
  | turn (within : a ≤ last) (sound : Turn radius stride a b) (later : Walks radius stride (a + stride) b rest) :
      Walks radius stride a last ((a, b) :: rest)

theorem root_unique {value root other : Int} (nonneg : 0 ≤ root) (low : root * root ≤ value)
    (high : value < (root + 1) * (root + 1)) (nonneg' : 0 ≤ other) (low' : other * other ≤ value)
    (high' : value < (other + 1) * (other + 1)) : root = other := by
  have upper : root < other + 1 := lt_of_mul_self_lt_mul_self₀ (by omega) (lt_of_le_of_lt low high')
  have lower : other < root + 1 := lt_of_mul_self_lt_mul_self₀ (by omega) (lt_of_le_of_lt low' high)
  omega

theorem Turn.unique {radius stride a b c : Int} (one : Turn radius stride a b) (two : Turn radius stride a c) :
    b = c := by
  obtain ⟨root, nonneg, low, high, _, rfl⟩ := one.rooted
  obtain ⟨other, nonneg', low', high', _, rfl⟩ := two.rooted
  rw [root_unique nonneg low high nonneg' low' high']

theorem Walks.unique {radius stride a last : Int} {first second : List (Int × Int)}
    (one : Walks radius stride a last first) (two : Walks radius stride a last second) : first = second := by
  induction one generalizing second with
  | past beyond =>
    cases two with
    | past => rfl
    | turn within => exact absurd beyond (Int.not_lt.mpr within)
  | turn within sound later ih =>
    cases two with
    | past beyond => exact absurd beyond (Int.not_lt.mpr within)
    | turn _ sound' later' =>
      cases sound.unique sound'
      rw [ih later']

section

variable {radius stride : Nat}

theorem height_rooted (radius a : Nat) :
    height radius a =
      if (a : Int) = 0 then (squareRoot (radius * radius - a * a) : Int) - 1
      else squareRoot (radius * radius - a * a) := by
  unfold height
  by_cases top : a = 0
  · simp [top]
  · simp [top]

theorem Visits.turn {step : Nat} (visits : Visits radius stride step) (small : radius < 0x10000)
    (narrow : stride < 0x10000) : Turn radius stride (stride * step : Nat) (height radius (stride * step)) := by
  have offset := visits.offset_le
  generalize stride * step = a at offset ⊢
  have inside : a * a ≤ radius * radius := Nat.mul_self_le_mul_self offset
  have most : radius * radius ≤ 0xFFFF * 0xFFFF := Nat.mul_self_le_mul_self (Nat.le_of_lt_succ small)
  have difference : (radius * radius - a * a : Int) = (radius * radius - a * a : Nat) := by
    rw [Nat.cast_sub inside, Nat.cast_mul, Nat.cast_mul]
  obtain ⟨low, high⟩ := squareRoot_bounds (radius * radius - a * a)
  have tall := height_rooted radius a
  generalize squareRoot (radius * radius - a * a) = root at low high tall
  have root_le : root ≤ radius := Nat.mul_self_le_mul_self_iff.mp (Nat.le_trans low (Nat.sub_le _ _))
  have bounded : -1 ≤ height radius a ∧ height radius a ≤ radius := by
    rw [tall]
    split <;> omega
  constructor
  case square => exact ⟨by omega, by exact_mod_cast Nat.le_trans most (by decide)⟩
  case inner => exact ⟨by omega, by exact_mod_cast Nat.le_trans inside (Nat.le_trans most (by decide))⟩
  case difference => rw [difference]; exact ⟨by omega, by omega⟩
  case rootable => rw [difference]; exact Int.natCast_nonneg _
  case rooted =>
    refine ⟨root, Int.natCast_nonneg root, ?_, ?_, ⟨by omega, by omega⟩, tall⟩
    · rw [difference]
      exact_mod_cast low
    · rw [difference]
      exact_mod_cast high
  case height => exact ⟨by omega, by omega⟩
  case drawn =>
    intro value given
    unfold Narrow
    simp only [List.mem_cons, List.not_mem_nil, or_false] at given
    omega
  case onward => exact ⟨by omega, by omega⟩

-- By induction on the steps that are left. The next one is visited as long as there are
-- any, and the first that is not ends the loop.
theorem walks_from (moves : 0 < stride) (small : radius < 0x10000) (narrow : stride < 0x10000) (left step : Nat)
    (all : step + left = steps radius stride) :
    Walks radius stride (stride * step : Nat) (heightBefore radius stride step)
      ((List.range' step left).map fun step => (((stride * step : Nat) : Int), height radius (stride * step))) := by
  induction left generalizing step with
  | zero =>
    have outside : ¬Visits radius stride step := by
      rw [← lt_steps_iff moves]
      omega
    exact .past (Int.not_le.mp (mt (guard_iff moves step).mp outside))
  | succ left ih =>
    have visits : Visits radius stride step := (lt_steps_iff moves).mp (by omega)
    have onward : ((stride * step : Nat) : Int) + stride = (stride * (step + 1) : Nat) := by
      rw [Nat.mul_succ, Nat.cast_add]
    have later := ih (step + 1) (by omega)
    rw [← onward] at later
    rw [List.range'_succ, List.map_cons]
    exact .turn ((guard_iff moves step).mpr visits) (visits.turn small narrow) later

theorem walks_iff (moves : 0 < stride) (small : radius < 0x10000) (narrow : stride < 0x10000)
    (points : List (Int × Int)) : Walks radius stride 0 0 points ↔ points = arc radius stride := by
  have walked : Walks radius stride 0 0 (arc radius stride) := by
    rw [arc_eq moves, List.range_eq_range']
    exact walks_from moves small narrow _ 0 (Nat.zero_add _)
  constructor
  · intro other
    exact other.unique walked
  · rintro rfl
    exact walked

theorem steps_long (moves : 0 < stride) (long : stride < radius) :
    ∃ most, IsGreatest {k | 1 ≤ k ∧ (stride * k) ^ 2 + (stride * (k - 1)) ^ 2 ≤ radius ^ 2} most ∧
      steps radius stride = 1 + most := by
  have more := (lt_steps_iff moves).mpr (.second long)
  refine ⟨steps radius stride - 1, ⟨⟨by omega, ?_⟩, ?_⟩, by omega⟩
  · have last : Visits radius stride (steps radius stride - 1) := (lt_steps_iff moves).mp (by omega)
    exact (last.resolve_left (by omega)).2
  · intro k inside
    have within := (lt_steps_iff moves).mpr (.inr ⟨long, inside.2⟩ : Visits radius stride k)
    omega

end

theorem rings_length (x y : Int32) (radius : Nat) :
    ((List.range' 1 radius).reverse.flatMap fun r => (ring r 2).map (place x y 2)).length =
      8 * ∑ r ∈ Finset.Icc 1 radius, (arc r 2).length := by
  induction radius with
  | zero => rfl
  | succ radius ih =>
    rw [List.range'_1_concat, List.reverse_append, List.flatMap_append, List.length_append, ih,
      Finset.sum_Icc_succ_top (Nat.succ_le_succ (Nat.zero_le radius))]
    simp [ring_length, Nat.mul_add, Nat.add_comm]

-- The loop has one run for every radius: it ends, all its numbers exist, and the number
-- of its turns is known before it starts. So are the points of an outline and of a disc.
theorem walk_exact (radius : UInt16) :
    (∀ stride : Nat, stride = 1 ∨ stride = 2 →
      (∀ points, Walks radius.toNat stride 0 0 points ↔ points = arc radius.toNat stride) ∧
      (radius.toNat ≤ stride → (arc radius.toNat stride).length = 1) ∧
      (stride < radius.toNat →
        ∃ most, IsGreatest {k | 1 ≤ k ∧ (stride * k) ^ 2 + (stride * (k - 1)) ^ 2 ≤ radius.toNat ^ 2} most ∧
          (arc radius.toNat stride).length = 1 + most)) ∧
    (∀ x y,
      (outline x y radius).length = 8 * (arc radius.toNat 1).length ∧
        (filled x y radius).length = 8 * ∑ r ∈ Finset.Icc 1 radius.toNat, (arc r 2).length) ∧
    (∀ x y,
      ([0, 1, 2, 3, 5, 10, 50].map fun r => (outline x y r).length) = [8, 8, 16, 24, 40, 64, 288] ∧
        ([0, 1, 3, 5, 10, 50].map fun r => (filled x y r).length) = [0, 8, 32, 72, 224, 3992]) := by
  have outlined : ∀ x y (radius : UInt16), (outline x y radius).length = 8 * (arc radius.toNat 1).length := by
    intro x y radius
    rw [outline, List.length_map, ring_length]
  have disc : ∀ x y (radius : UInt16),
      (filled x y radius).length = 8 * ∑ r ∈ Finset.Icc 1 radius.toNat, (arc r 2).length :=
    fun x y radius => rings_length x y radius.toNat
  refine ⟨fun stride either => ?_, fun x y => ⟨outlined x y radius, disc x y radius⟩, fun x y => ?_⟩
  · have moves : 0 < stride := by omega
    rw [arc_length moves]
    exact ⟨walks_iff moves radius.toNat_lt (by omega), fun short => if_pos short, steps_long moves⟩
  · simp only [outlined, disc]
    decide +kernel

theorem radius_two_walked :
    Walks 2 2 0 0 (arc 2 2) ∧ (arc 2 2).length = 1 ∧
      ∃ most, IsGreatest {k | 1 ≤ k ∧ (1 * k) ^ 2 + (1 * (k - 1)) ^ 2 ≤ 2 ^ 2} most ∧ (arc 2 1).length = 1 + most := by
  obtain ⟨walks, short, _⟩ := (walk_exact 2).1 2 (.inr rfl)
  obtain ⟨_, _, long⟩ := (walk_exact 2).1 1 (.inl rfl)
  exact ⟨(walks (arc 2 2)).mpr rfl, short (by decide), long (by decide)⟩

end Circle

end SerialPanel
