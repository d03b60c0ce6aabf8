import Mathlib.Algebra.Order.Group.Abs
import Mathlib.Algebra.Order.Ring.Abs
import SerialPanel.Proofs.Arc
namespace SerialPanel

def Narrow (value : Int) : Prop := -0x80000000 ≤ value ∧ value ≤ 0x7FFFFFFF

instance (value : Int) : Decidable (Narrow value) := inferInstanceAs (Decidable (_ ∧ _))

theorem clampCoordinate_narrow {value : Int} (narrow : Narrow value) : clampCoordinate value = value := by
  unfold Narrow at narrow
  unfold clampCoordinate
  omega

def Dot.offset (dot : Dot) (x y : Int32) : Int × Int := (dot.x - x.toInt, dot.y - y.toInt)

namespace Circle

def Unclamped (x y : Int32) (offset : Int × Int) : Prop :=
  Narrow (x.toInt + offset.1) ∧ Narrow (y.toInt + offset.2)

instance (x y : Int32) (offset : Int × Int) : Decidable (Unclamped x y offset) :=
  inferInstanceAs (Decidable (_ ∧ _))

theorem place_unclamped {x y : Int32} {offset : Int × Int} (unclamped : Unclamped x y offset) (size : UInt8) :
    place x y size offset = ⟨x.toInt + offset.1, y.toInt + offset.2, size⟩ := by
  rw [place, clampCoordinate_narrow unclamped.1, clampCoordinate_narrow unclamped.2]

theorem offset_place {x y : Int32} {offset : Int × Int} (unclamped : Unclamped x y offset) (size : UInt8) :
    (place x y size offset).offset x y = offset := by
  rw [place_unclamped unclamped]
  exact Prod.ext (add_sub_cancel_left ..) (add_sub_cancel_left ..)

theorem mem_octants {a b : Int} {p : Int × Int} :
    p ∈ octants a b ↔
      (p.1 = a ∨ p.1 = -a) ∧ (p.2 = b ∨ p.2 = -b) ∨ (p.1 = b ∨ p.1 = -b) ∧ (p.2 = a ∨ p.2 = -a) := by
  simp only [octants, List.mem_cons, List.not_mem_nil, or_false, Prod.ext_iff]
  constructor
  · rintro (⟨across, along⟩ | ⟨across, along⟩ | ⟨across, along⟩ | ⟨across, along⟩ | ⟨across, along⟩ |
      ⟨across, along⟩ | ⟨across, along⟩ | ⟨across, along⟩) <;> simp [across, along]
  · rintro (⟨across | across, along | along⟩ | ⟨across | across, along | along⟩) <;> simp [across, along]

theorem octants_flip {a b : Int} {p : Int × Int} (drawn : p ∈ octants a b) : (-p.1, p.2) ∈ octants a b := by
  rw [mem_octants] at drawn ⊢
  omega

theorem octants_swap {a b : Int} {p : Int × Int} (drawn : p ∈ octants a b) : (p.2, p.1) ∈ octants a b := by
  rw [mem_octants] at drawn ⊢
  omega

-- The eight points come from the first one by turning over and swapping, so whatever
-- these two keep holds of all of them.
theorem octants_induction {motive : Int × Int → Prop} {a b : Int} (first : motive (a, b))
    (flip : ∀ p, motive p → motive (-p.1, p.2)) (swap : ∀ p, motive p → motive (p.2, p.1)) :
    ∀ p ∈ octants a b, motive p := by
  have signs : ∀ c d : Int, motive (c, d) → motive (-c, d) ∧ motive (c, -d) ∧ motive (-c, -d) := by
    intro c d holds
    have below : motive (c, -d) := swap (-d, c) (flip (d, c) (swap (c, d) holds))
    exact ⟨flip (c, d) holds, below, flip (c, -d) below⟩
  have second : motive (b, a) := swap (a, b) first
  obtain ⟨left, below, opposite⟩ := signs a b first
  obtain ⟨left', below', opposite'⟩ := signs b a second
  intro p drawn
  simp only [octants, List.mem_cons, List.not_mem_nil, or_false] at drawn
  rcases drawn with rfl | rfl | rfl | rfl | rfl | rfl | rfl | rfl <;> assumption

structure InBand (radius : Int) (p : Int × Int) : Prop where
  inner : (radius - 1) ^ 2 ≤ p.1 ^ 2 + p.2 ^ 2
  outer : p.1 ^ 2 + p.2 ^ 2 ≤ radius ^ 2
  across : |p.1| ≤ radius - 1
  along : |p.2| ≤ radius - 1

theorem InBand.octants {radius a b : Int} (first : InBand radius (a, b)) : ∀ p ∈ octants a b, InBand radius p := by
  apply octants_induction first
  · intro p band
    refine ⟨?_, ?_, ?_, band.along⟩
    · rw [neg_sq]
      exact band.inner
    · rw [neg_sq]
      exact band.outer
    · rw [abs_neg]
      exact band.across
  · intro p band
    refine ⟨?_, ?_, band.along, band.across⟩
    · rw [add_comm]
      exact band.inner
    · rw [add_comm]
      exact band.outer

section

variable {radius stride : Nat}

theorem ring_eq (radius stride : Nat) :
    ring radius stride = (arc radius stride).flatMap fun point => octants point.1 point.2 := rfl

theorem mem_ring_iff (moves : 0 < stride) {p : Int × Int} :
    p ∈ ring radius stride ↔
      ∃ step, Visits radius stride step ∧ p ∈ octants (stride * step : Nat) (height radius (stride * step)) := by
  rw [ring_eq, List.mem_flatMap]
  constructor
  · rintro ⟨point, walked, drawn⟩
    obtain ⟨step, visits, rfl⟩ := (mem_arc_iff moves).mp walked
    exact ⟨step, visits, drawn⟩
  · rintro ⟨step, visits, drawn⟩
    exact ⟨_, (mem_arc_iff moves).mpr ⟨step, visits, rfl⟩, drawn⟩

theorem Visits.offset_lt {step : Nat} (visits : Visits radius stride step) (moves : 0 < stride) (positive : 0 < radius) :
    stride * step < radius := by
  match step, visits with
  | 0, _ => simpa using positive
  | 1, .inr ⟨long, _⟩ => simpa using long
  | step + 2, .inr ⟨_, inside⟩ =>
    have before : 0 < (stride * (step + 2 - 1)) ^ 2 := Nat.pow_pos (Nat.mul_pos moves (Nat.succ_pos step))
    refine (Nat.pow_lt_pow_iff_left (by decide : (2 : Nat) ≠ 0)).mp (Nat.lt_of_lt_of_le ?_ inside)
    omega

-- Beside the axis the arc stays below the radius since the offset takes something away;
-- on the axis it is pulled in by one.
theorem Visits.inBand {step : Nat} (visits : Visits radius stride step) (moves : 0 < stride) (positive : 0 < radius) :
    InBand radius (((stride * step : Nat) : Int), height radius (stride * step)) := by
  have offset := visits.offset_lt moves positive
  generalize stride * step = a at offset ⊢
  rcases Nat.eq_zero_or_pos a with rfl | beside
  · rw [height_top]
    have one : (1 : Int) ≤ radius := by exact_mod_cast positive
    have level : |(radius : Int) - 1| = radius - 1 := abs_of_nonneg (by omega)
    refine ⟨by simp, ?_, by simpa using one, Int.le_of_eq level⟩
    simp only [Nat.cast_zero]
    linarith
  · have inside : a * a ≤ radius * radius := Nat.mul_self_le_mul_self (Nat.le_of_lt offset)
    have low := (radius * radius - a * a).sqrt_le
    have high := (radius * radius - a * a).lt_succ_sqrt
    rw [height_beside radius beside]
    generalize (radius * radius - a * a).sqrt = b at low high
    have under : a * a + b * b ≤ radius * radius := by omega
    have beyond : radius * radius < a * a + (b + 1) * (b + 1) := by
      have := Nat.succ_eq_add_one b ▸ high
      omega
    have taken : 0 < a * a := Nat.mul_pos beside beside
    have below : b < radius := Nat.mul_self_lt_mul_self_iff.mp (by omega)
    zify at under beyond below offset beside
    have right : |(a : Int)| = a := abs_of_nonneg (by omega)
    have above : |(b : Int)| = b := abs_of_nonneg (by omega)
    exact ⟨by linarith, by linarith, right.le.trans (by omega), above.le.trans (by omega)⟩

theorem ring_inBand (moves : 0 < stride) (positive : 0 < radius) : ∀ p ∈ ring radius stride, InBand radius p := by
  intro p drawn
  obtain ⟨step, visits, octant⟩ := (mem_ring_iff moves).mp drawn
  exact (visits.inBand moves positive).octants p octant

theorem ring_flip (moves : 0 < stride) {p : Int × Int} (drawn : p ∈ ring radius stride) :
    (-p.1, p.2) ∈ ring radius stride := by
  obtain ⟨step, visits, octant⟩ := (mem_ring_iff moves).mp drawn
  exact (mem_ring_iff moves).mpr ⟨step, visits, octants_flip octant⟩

theorem ring_swap (moves : 0 < stride) {p : Int × Int} (drawn : p ∈ ring radius stride) :
    (p.2, p.1) ∈ ring radius stride := by
  obtain ⟨step, visits, octant⟩ := (mem_ring_iff moves).mp drawn
  exact (mem_ring_iff moves).mpr ⟨step, visits, octants_swap octant⟩

theorem ring_length (radius stride : Nat) : (ring radius stride).length = 8 * (arc radius stride).length := by
  rw [ring_eq, List.length_flatMap]
  induction arc radius stride with
  | nil => rfl
  | cons point rest ih =>
    rw [List.map_cons, List.sum_cons, ih, List.length_cons, Nat.mul_succ, Nat.add_comm]
    rfl

theorem ring_first (moves : 0 < stride) {step : Nat} (visits : Visits radius stride step) :
    (ring radius stride)[8 * step]? = some (((stride * step : Nat) : Int), height radius (stride * step)) := by
  have grouped : ∀ (points : List (Int × Int)) (place : Nat),
      (points.flatMap fun point => octants point.1 point.2)[8 * place]? = points[place]? := by
    intro points
    induction points with
    | nil => simp
    | cons point rest ih =>
      intro place
      cases place with
      | zero => rfl
      | succ place => exact ih place
  rw [ring_eq, grouped, arc_eq moves, List.getElem?_map, List.getElem?_range ((lt_steps_iff moves).mpr visits)]
  rfl

end

end Circle

end SerialPanel
