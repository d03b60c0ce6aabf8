import Mathlib.Tactic.Ring
import SerialPanel.Proofs.Ring
namespace SerialPanel

def Dot.Paints (dot : Dot) (x y : Int) : Prop :=
  (dot.x ≤ x ∧ x < dot.x + dot.size.toNat) ∧ dot.y ≤ y ∧ y < dot.y + dot.size.toNat

namespace Circle

theorem square_above {n : Nat} (positive : 0 < n) : ∃ root : Nat, root * root < n ∧ n ≤ (root + 1) * (root + 1) := by
  have low := (n - 1).sqrt_le
  have high : n - 1 < ((n - 1).sqrt + 1) * ((n - 1).sqrt + 1) := (n - 1).lt_succ_sqrt
  exact ⟨(n - 1).sqrt, by omega, by omega⟩

theorem ring_above {step row : Nat} (beside : 0 < step) (near : 2 * step ≤ row + 1) :
    ∃ r above : Nat, r * r < (2 * step) * (2 * step) + row * row ∧ Visits (r + 1) 2 step ∧
      height (r + 1) (2 * step) = above ∧ (above = row ∨ above = row + 1) := by
  have column : 0 < 2 * step := Nat.mul_pos Nat.two_pos beside
  have before : 2 * (step - 1) ≤ row := by omega
  have start : 2 ≤ 2 * step := by omega
  have wide : 2 * 2 ≤ (2 * step) * (2 * step) := Nat.mul_le_mul start start
  have tall : 1 * 1 ≤ row * row := Nat.mul_le_mul (by omega) (by omega)
  obtain ⟨r, below, outside⟩ := square_above (n := (2 * step) * (2 * step) + row * row) (by omega)
  refine ⟨r, _, below, .inr ⟨?_, ?_⟩, height_beside (r + 1) column, ?_⟩
  · by_contra small
    have most : (r + 1) * (r + 1) ≤ 2 * 2 := Nat.mul_self_le_mul_self (Nat.le_of_not_lt small)
    omega
  · have earlier : (2 * (step - 1)) * (2 * (step - 1)) ≤ row * row := Nat.mul_self_le_mul_self before
    rw [Nat.pow_two, Nat.pow_two, Nat.pow_two]
    omega
  · have spread : r < 2 * (row + 1) := by
      apply Nat.mul_self_lt_mul_self_iff.mp
      have most : (2 * step) * (2 * step) ≤ (row + 1) * (row + 1) := Nat.mul_self_le_mul_self near
      linarith
    have grows : (r + 1) * (r + 1) = r * r + 2 * r + 1 := by ring
    have rows : (row + 1 + 1) * (row + 1 + 1) = row * row + 4 * row + 4 := by ring
    have least : row ≤ ((r + 1) * (r + 1) - (2 * step) * (2 * step)).sqrt := Nat.le_sqrt.mpr (by omega)
    have most : ((r + 1) * (r + 1) - (2 * step) * (2 * step)).sqrt < row + 1 + 1 := Nat.sqrt_lt.mpr (by omega)
    omega

-- A block of four pixels has one even column. On the axis every row is taken by a ring
-- of its own; beside it the ring above the block's row has to be one of those drawn.
theorem ring_near {column row radius : Nat} (order : column ≤ row)
    (inside : column * column + row * row ≤ radius * radius) :
    ∃ r step above : Nat, r ≤ radius ∧ Visits (r + 1) 2 step ∧ (2 * step = column ∨ 2 * step = column + 1) ∧
      height (r + 1) (2 * step) = above ∧ (above = row ∨ above = row + 1) := by
  obtain ⟨step, even⟩ : ∃ step, 2 * step = column ∨ 2 * step = column + 1 := ⟨(column + 1) / 2, by omega⟩
  rcases Nat.eq_zero_or_pos step with rfl | beside
  · have low : row ≤ radius := Nat.mul_self_le_mul_self_iff.mp (by omega)
    refine ⟨row, 0, row, low, .first, even, ?_, .inl rfl⟩
    rw [height_top, Nat.cast_succ, add_sub_cancel_right]
  · have near : 2 * step ≤ row + 1 := by omega
    obtain ⟨r, above, below, visits, high, rows⟩ := ring_above beside near
    refine ⟨r, step, above, ?_, visits, even, high, rows⟩
    have left : column ≤ radius := Nat.mul_self_le_mul_self_iff.mp (by omega)
    have widest : (2 * step) * (2 * step) ≤ (column + 1) * (column + 1) := Nat.mul_self_le_mul_self (by omega)
    have next : (column + 1) * (column + 1) = column * column + 2 * column + 1 := by ring
    have outside : (radius + 1) * (radius + 1) = radius * radius + 2 * radius + 1 := by ring
    exact Nat.le_of_lt_succ (Nat.mul_self_lt_mul_self_iff.mp (show r * r < (radius + 1) * (radius + 1) by omega))

def Serves (least : Nat) (d : Int) : Prop :=
  ∀ c : Nat, c = least ∨ c = least + 1 → ∃ e : Int, (e = c ∨ e = -c) ∧ e ≤ d ∧ d < e + 2

-- A block reaches to the right and upward only. Left of the axis and on it, it begins at
-- its pixel or one further out, right of it at the pixel or one further in.
theorem serves_exists (d : Int) : ∃ least : Nat, (least : Int) * least ≤ d * d ∧ Serves least d := by
  rcases Int.lt_or_le 0 d with right | left
  · have nonneg : 0 ≤ d - 1 := by omega
    refine ⟨(d - 1).toNat, ?_, ?_⟩
    · rw [Int.toNat_of_nonneg nonneg]
      exact mul_self_le_mul_self nonneg (by omega)
    · intro c either
      exact ⟨c, .inl rfl, by omega, by omega⟩
  · refine ⟨(-d).toNat, by rw [Int.toNat_of_nonneg (by omega), neg_mul_neg], ?_⟩
    intro c either
    exact ⟨-c, .inr rfl, by omega, by omega⟩

theorem octant_covers {column row radius : Nat} {dx dy : Int} (order : column ≤ row)
    (inside : column * column + row * row ≤ radius * radius) (columns : Serves column dx) (rows : Serves row dy) :
    ∃ r, r ≤ radius ∧ ∃ p ∈ ring (r + 1) 2, (p.1 ≤ dx ∧ dx < p.1 + 2) ∧ p.2 ≤ dy ∧ dy < p.2 + 2 := by
  obtain ⟨r, step, above, within, visits, even, tall, high⟩ := ring_near order inside
  obtain ⟨a, across, horizontal⟩ := columns (2 * step) even
  obtain ⟨b, along, vertical⟩ := rows above high
  refine ⟨r, within, (a, b), (mem_ring_iff Nat.two_pos).mpr ⟨step, visits, ?_⟩, horizontal, vertical⟩
  rw [mem_octants, tall]
  exact .inl ⟨across, along⟩

theorem rings_cover {radius : Nat} {dx dy : Int} (inside : dx * dx + dy * dy ≤ (radius : Int) * radius) :
    ∃ r, r ≤ radius ∧ ∃ p ∈ ring (r + 1) 2, (p.1 ≤ dx ∧ dx < p.1 + 2) ∧ p.2 ≤ dy ∧ dy < p.2 + 2 := by
  obtain ⟨column, across, columns⟩ := serves_exists dx
  obtain ⟨row, along, rows⟩ := serves_exists dy
  have corner : column * column + row * row ≤ radius * radius := by
    zify
    omega
  rcases Nat.le_total column row with order | order
  · exact octant_covers order corner columns rows
  · obtain ⟨r, within, p, drawn, vertical, horizontal⟩ :=
      octant_covers order (Nat.add_comm _ _ ▸ corner) rows columns
    exact ⟨r, within, (p.2, p.1), ring_swap Nat.two_pos drawn, horizontal, vertical⟩

theorem mem_filled {x y : Int32} {radius : UInt16} {dot : Dot} :
    dot ∈ filled x y radius ↔
      ∃ r, (1 ≤ r ∧ r ≤ radius.toNat) ∧ ∃ offset ∈ ring r 2, place x y 2 offset = dot := by
  simp only [filled, List.mem_flatMap, List.mem_reverse, List.mem_range'_1, List.mem_map, Nat.add_comm 1,
    Nat.lt_succ_iff]

-- A filled circle leaves no hole in the disc of the next smaller radius, and paints from
-- nowhere outside its own.
theorem filled_whole (x y : Int32) (radius : UInt16) (positive : 1 ≤ radius.toNat)
    (unclamped : ∀ r, 1 ≤ r → r ≤ radius.toNat → ∀ offset ∈ ring r 2, Unclamped x y offset) :
    let r : Int := radius.toNat
    (∀ dx dy : Int, dx ^ 2 + dy ^ 2 ≤ (r - 1) ^ 2 →
      ∃ dot ∈ filled x y radius, dot.Paints (x.toInt + dx) (y.toInt + dy)) ∧
    ∀ dot ∈ filled x y radius, dot.size = 2 ∧
      (dot.x - x.toInt) ^ 2 + (dot.y - y.toInt) ^ 2 ≤ r ^ 2 ∧
      |dot.x - x.toInt| ≤ r - 1 ∧ |dot.y - y.toInt| ≤ r - 1 := by
  intro r
  constructor
  · intro dx dy inside
    have less : r - 1 = (radius.toNat - 1 : Nat) := (Nat.cast_sub positive).symm
    rw [less, pow_two, pow_two, pow_two] at inside
    obtain ⟨smaller, within, p, drawn, horizontal, vertical⟩ := rings_cover inside
    have last : smaller + 1 ≤ radius.toNat := by omega
    refine ⟨place x y 2 p, mem_filled.mpr ⟨smaller + 1, ⟨Nat.succ_pos smaller, last⟩, p, drawn, rfl⟩, ?_⟩
    rw [place_unclamped (unclamped (smaller + 1) (Nat.succ_pos smaller) last p drawn)]
    have two : (2 : UInt8).toNat = 2 := rfl
    simp only [Dot.Paints, two]
    omega
  · intro dot painted
    obtain ⟨index, ⟨first, last⟩, p, drawn, rfl⟩ := mem_filled.mp painted
    obtain ⟨_, outer, across, along⟩ := ring_inBand Nat.two_pos first p drawn
    rw [place_unclamped (unclamped index first last p drawn)]
    have grows : (index : Int) ^ 2 ≤ (radius.toNat : Int) ^ 2 := by exact_mod_cast Nat.pow_le_pow_left last 2
    simp only [add_sub_cancel_left]
    exact ⟨trivial, outer.trans grows, by omega, by omega⟩

theorem filled_in_corner :
    (∃ dot ∈ filled 2147483645 (-2147483646) 3, dot.Paints 2147483644 (-2147483645)) ∧
      ∀ dot ∈ filled 2147483645 (-2147483646) 3, |dot.x - 2147483645| ≤ 2 := by
  have unclamped : ∀ r, 1 ≤ r → r ≤ 3 → ∀ offset ∈ ring r 2, Unclamped 2147483645 (-2147483646) offset := by decide
  have right : (2147483645 : Int32).toInt = 2147483645 := by decide
  have bottom : (-2147483646 : Int32).toInt = -2147483646 := by decide
  obtain ⟨covered, placed⟩ := filled_whole 2147483645 (-2147483646) 3 (by decide) unclamped
  rw [right, bottom] at covered
  rw [right] at placed
  have pixel := covered (-1) 1 (by decide)
  simp only [Int.reduceNeg, Int.reduceAdd] at pixel
  refine ⟨pixel, ?_⟩
  intro dot painted
  obtain ⟨_, _, across, _⟩ := placed dot painted
  exact across

end Circle

end SerialPanel
