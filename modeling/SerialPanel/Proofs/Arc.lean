import Mathlib.Data.Nat.Find
import Mathlib.Data.Nat.Sqrt
import Mathlib.Tactic.Linarith
import SerialPanel.Circle
namespace SerialPanel

theorem squareRoot_eq_sqrt (n : Nat) : squareRoot n = n.sqrt :=
  squareRoot_unique n n.sqrt n.sqrt_le n.lt_succ_sqrt

namespace Circle

theorem height_top (radius : Nat) : height radius 0 = (radius : Int) - 1 := by
  simp [height, squareRoot_eq_sqrt, Nat.sqrt_eq]

theorem height_beside (radius : Nat) {a : Nat} (beside : 0 < a) :
    height radius a = (radius * radius - a * a).sqrt := by
  simp [height, squareRoot_eq_sqrt, Nat.ne_of_gt beside]

-- Beside the axis the arc is as high as the disc. A height of zero tells nothing: it is
-- also what is left of a difference below zero.
theorem le_height_iff {radius a b : Nat} (beside : 0 < a) (above : 0 < b) :
    (b : Int) ≤ height radius a ↔ a ^ 2 + b ^ 2 ≤ radius ^ 2 := by
  have positive : 0 < b * b := Nat.mul_pos above above
  rw [height_beside radius beside, Int.ofNat_le, Nat.le_sqrt, Nat.pow_two, Nat.pow_two, Nat.pow_two]
  omega

-- The steps that a walk takes: the first one always, the second where the topmost point
-- leaves room for it, and every other where its offset and the one before span a corner
-- inside the circle.
def Visits (radius stride step : Nat) : Prop :=
  step = 0 ∨ stride < radius ∧ (stride * step) ^ 2 + (stride * (step - 1)) ^ 2 ≤ radius ^ 2

def heightBefore (radius stride : Nat) : Nat → Int
  | 0 => 0
  | step + 1 => height radius (stride * step)

section

variable {radius stride : Nat}

theorem Visits.first : Visits radius stride 0 := .inl rfl

theorem Visits.second (long : stride < radius) : Visits radius stride 1 := by
  refine .inr ⟨long, ?_⟩
  simpa using Nat.pow_le_pow_left (Nat.le_of_lt long) 2

theorem guard_iff (moves : 0 < stride) (step : Nat) :
    ((stride * step : Nat) : Int) ≤ heightBefore radius stride step ↔ Visits radius stride step := by
  match step with
  | 0 => simp [heightBefore, Visits]
  | 1 =>
    rw [heightBefore, Nat.mul_zero, height_top, Nat.mul_one]
    constructor
    · intro below
      exact .second (by omega)
    · rintro (impossible | ⟨long, _⟩)
      · cases impossible
      · omega
  | step + 2 =>
    have beside : 0 < stride * (step + 1) := Nat.mul_pos moves (Nat.succ_pos _)
    have above : 0 < stride * (step + 2) := Nat.mul_pos moves (Nat.succ_pos _)
    rw [heightBefore, le_height_iff beside above]
    constructor
    · intro inside
      have less : stride < radius := by
        by_contra wide
        have bound := Nat.pow_le_pow_left (Nat.le_of_not_lt wide) 2
        have first : stride ^ 2 ≤ (stride * (step + 1)) ^ 2 :=
          Nat.pow_le_pow_left (Nat.le_mul_of_pos_right stride (Nat.succ_pos step)) 2
        have second : 0 < (stride * (step + 2)) ^ 2 := Nat.pow_pos above
        omega
      exact .inr ⟨less, by rw [Nat.add_comm]; exact inside⟩
    · rintro (impossible | ⟨_, inside⟩)
      · exact absurd impossible (Nat.succ_ne_zero _)
      · rw [Nat.add_comm]
        exact inside

theorem Visits.before {step : Nat} (visits : Visits radius stride (step + 1)) : Visits radius stride step := by
  rcases visits with impossible | ⟨less, inside⟩
  · exact absurd impossible (Nat.succ_ne_zero step)
  · refine .inr ⟨less, Nat.le_trans (Nat.add_le_add ?_ ?_) inside⟩
    · exact Nat.pow_le_pow_left (Nat.mul_le_mul_left stride (Nat.le_succ step)) 2
    · exact Nat.pow_le_pow_left (Nat.mul_le_mul_left stride (Nat.sub_le_sub_right (Nat.le_succ step) 1)) 2

theorem Visits.of_le {earlier step : Nat} (visits : Visits radius stride step) (sooner : earlier ≤ step) :
    Visits radius stride earlier := by
  induction step, sooner using Nat.le_induction with
  | base => exact visits
  | succ step _ ih => exact ih visits.before

theorem Visits.offset_le {step : Nat} (visits : Visits radius stride step) : stride * step ≤ radius := by
  rcases visits with rfl | ⟨_, inside⟩
  · simp
  · exact (Nat.pow_le_pow_iff_left (by decide : (2 : Nat) ≠ 0)).mp (Nat.le_trans (Nat.le_add_right _ _) inside)

end

def steps (radius stride : Nat) : Nat :=
  if radius ≤ stride then 1
  else 1 + Nat.findGreatest (fun step => (stride * step) ^ 2 + (stride * (step - 1)) ^ 2 ≤ radius ^ 2) radius

section

variable {radius stride : Nat}

theorem lt_steps_iff (moves : 0 < stride) {step : Nat} : step < steps radius stride ↔ Visits radius stride step := by
  unfold steps
  split
  · rename_i short
    rw [Nat.lt_one_iff]
    exact ⟨.inl, fun visits => visits.resolve_right fun long => absurd long.1 (Nat.not_lt.mpr short)⟩
  · rename_i long
    have less : stride < radius := Nat.lt_of_not_le long
    constructor
    · intro within
      cases step with
      | zero => exact .first
      | succ step =>
        have least := Nat.le_of_lt_succ (Nat.add_comm 1 _ ▸ within)
        have inside := Nat.findGreatest_of_ne_zero rfl (Nat.ne_of_gt (Nat.lt_of_lt_of_le (Nat.succ_pos step) least))
        exact Visits.of_le (.inr ⟨less, inside⟩) least
    · intro visits
      have bounded : step ≤ radius := Nat.le_trans (Nat.le_mul_of_pos_left step moves) visits.offset_le
      rcases visits with rfl | ⟨_, inside⟩
      · omega
      · have least := Nat.le_findGreatest
          (P := fun step => (stride * step) ^ 2 + (stride * (step - 1)) ^ 2 ≤ radius ^ 2) bounded inside
        omega

theorem steps_le (moves : 0 < stride) : steps radius stride ≤ radius + 1 := by
  by_contra more
  have visits := (lt_steps_iff moves).mp (Nat.lt_of_not_le more)
  have bounded := Nat.le_trans (Nat.le_mul_of_pos_left (radius + 1) moves) visits.offset_le
  omega

-- By induction on the steps that are still allowed: those that the loop takes are the
-- ones visited, so it ends before they are used up.
theorem arcFrom_eq (moves : 0 < stride) (allowed step : Nat) (within : step ≤ steps radius stride) :
    arcFrom radius stride allowed (stride * step) (heightBefore radius stride step) =
      (List.range' step (min allowed (steps radius stride - step))).map fun step =>
        (((stride * step : Nat) : Int), height radius (stride * step)) := by
  induction allowed generalizing step with
  | zero => simp [arcFrom]
  | succ allowed ih =>
    rw [arcFrom]
    by_cases visits : Visits radius stride step
    · have inside : step < steps radius stride := (lt_steps_iff moves).mpr visits
      have count : min (allowed + 1) (steps radius stride - step) =
          min allowed (steps radius stride - (step + 1)) + 1 := by omega
      rw [if_pos ((guard_iff moves step).mpr visits), count, List.range'_succ, List.map_cons, ← ih (step + 1) inside]
      rfl
    · have outside : steps radius stride - step = 0 := by
        have past := mt (lt_steps_iff moves).mp visits
        omega
      rw [if_neg (mt (guard_iff moves step).mp visits), outside]
      simp

theorem arc_eq (moves : 0 < stride) :
    arc radius stride = (List.range (steps radius stride)).map fun step =>
      (((stride * step : Nat) : Int), height radius (stride * step)) := by
  have whole := arcFrom_eq moves (radius + 1) 0 (Nat.zero_le (steps radius stride))
  rw [Nat.sub_zero, Nat.min_eq_right (steps_le moves), ← List.range_eq_range'] at whole
  exact whole

theorem arc_length (moves : 0 < stride) : (arc radius stride).length = steps radius stride := by
  rw [arc_eq moves, List.length_map, List.length_range]

theorem mem_arc_iff (moves : 0 < stride) {point : Int × Int} :
    point ∈ arc radius stride ↔
      ∃ step, Visits radius stride step ∧ (((stride * step : Nat) : Int), height radius (stride * step)) = point := by
  simp only [arc_eq moves, List.mem_map, List.mem_range, lt_steps_iff moves]

end

end Circle

end SerialPanel
