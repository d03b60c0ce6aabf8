import Mathlib.Logic.Relation
import Mathlib.Tactic.Ring
import SerialPanel.Proofs.Ring
namespace SerialPanel

namespace Circle

def Touching (p q : Int × Int) : Prop := |p.1 - q.1| ≤ 1 ∧ |p.2 - q.2| ≤ 1

def Step (points : List (Int × Int)) (p q : Int × Int) : Prop := p ∈ points ∧ q ∈ points ∧ Touching p q

def Joined (points : List (Int × Int)) : Int × Int → Int × Int → Prop := Relation.ReflTransGen (Step points)

theorem touching_iff {p q : Int × Int} :
    Touching p q ↔ (p.1 ≤ q.1 + 1 ∧ q.1 ≤ p.1 + 1) ∧ p.2 ≤ q.2 + 1 ∧ q.2 ≤ p.2 + 1 := by
  rw [Touching, abs_le, abs_le]
  omega

theorem Touching.symm {p q : Int × Int} (touching : Touching p q) : Touching q p := by
  obtain ⟨across, along⟩ := touching
  exact ⟨by rwa [abs_sub_comm], by rwa [abs_sub_comm]⟩

theorem Joined.symm {points : List (Int × Int)} {p q : Int × Int} (joined : Joined points p q) :
    Joined points q p := by
  induction joined with
  | refl => exact .refl
  | tail _ step ih => exact .head ⟨step.2.1, step.1, step.2.2.symm⟩ ih

section

variable {radius stride : Nat}

theorem Joined.flip (moves : 0 < stride) {p q : Int × Int} (joined : Joined (ring radius stride) p q) :
    Joined (ring radius stride) (-p.1, p.2) (-q.1, q.2) := by
  refine Relation.ReflTransGen.lift (fun p : Int × Int => (-p.1, p.2)) ?_ _ _ joined
  intro p q ⟨first, second, across, along⟩
  refine ⟨ring_flip moves first, ring_flip moves second, ?_, along⟩
  rw [neg_sub_neg, abs_sub_comm]
  exact across

theorem Joined.swap (moves : 0 < stride) {p q : Int × Int} (joined : Joined (ring radius stride) p q) :
    Joined (ring radius stride) (p.2, p.1) (q.2, q.1) := by
  refine Relation.ReflTransGen.lift (fun p : Int × Int => (p.2, p.1)) ?_ _ _ joined
  intro p q ⟨first, second, across, along⟩
  exact ⟨ring_swap moves first, ring_swap moves second, along, across⟩

end

section

variable {radius : Nat}

theorem height_second (positive : 0 < radius) : height radius 1 = (radius : Int) - 1 := by
  obtain ⟨less, rfl⟩ : ∃ less, radius = less + 1 := ⟨radius - 1, by omega⟩
  have root : less = ((less + 1) * (less + 1) - 1 * 1).sqrt := by
    rw [Nat.eq_sqrt, Nat.succ_mul_succ]
    omega
  rw [height_beside _ Nat.one_pos, ← root]
  omega

-- Below the diagonal the square that one more column takes away is less than what one
-- row is worth.
theorem height_next {a : Nat} (long : 1 < radius) (visits : Visits radius 1 (a + 1)) :
    height radius (a + 1) = height radius a ∨ height radius (a + 1) = height radius a - 1 := by
  have positive : 0 < radius := by omega
  rcases Nat.eq_zero_or_pos a with rfl | beside
  · rw [height_second positive, height_top]
    exact .inl rfl
  · have guarded := (guard_iff Nat.one_pos (a + 1)).mpr visits
    rw [heightBefore, Nat.one_mul, Nat.one_mul, height_beside radius beside, Int.ofNat_le] at guarded
    have low := (radius * radius - a * a).sqrt_le
    have step : (a + 1) * (a + 1) = a * a + 2 * a + 1 := by ring
    rw [height_beside radius beside, height_beside radius (a := a + 1) (Nat.succ_pos a)]
    have falls : (radius * radius - (a + 1) * (a + 1)).sqrt ≤ (radius * radius - a * a).sqrt :=
      Nat.sqrt_le_sqrt (by omega)
    have holds : (radius * radius - a * a).sqrt - 1 ≤ (radius * radius - (a + 1) * (a + 1)).sqrt := by
      rw [Nat.le_sqrt]
      generalize (radius * radius - a * a).sqrt = b at guarded low
      obtain ⟨less, rfl⟩ : ∃ less, b = less + 1 := ⟨b - 1, by omega⟩
      have row : (less + 1) * (less + 1) = less * less + 2 * less + 1 := by ring
      rw [Nat.add_sub_cancel]
      omega
    omega

theorem height_last {last : Nat} (long : 1 < radius) (visits : Visits radius 1 (last + 1))
    (ends : ¬Visits radius 1 (last + 2)) :
    height radius (last + 1) = ((last + 1 : Nat) : Int) - 1 ∨ height radius (last + 1) = (last + 1 : Nat) := by
  have reached := (guard_iff Nat.one_pos (last + 1)).mpr visits
  have passed := mt (guard_iff Nat.one_pos (last + 2)).mp ends
  rw [heightBefore, Nat.one_mul, Nat.one_mul] at reached passed
  have next := height_next long visits
  omega

theorem last_visited (long : 1 < radius) :
    ∃ last, steps radius 1 = last + 2 ∧ Visits radius 1 (last + 1) ∧ ¬Visits radius 1 (last + 2) := by
  have second := (lt_steps_iff Nat.one_pos).mpr (.second long)
  refine ⟨steps radius 1 - 2, by omega, (lt_steps_iff Nat.one_pos).mp (by omega), ?_⟩
  rw [← lt_steps_iff Nat.one_pos]
  omega

theorem arc_drawn {a : Nat} (visits : Visits radius 1 a) : ((a : Int), height radius a) ∈ ring radius 1 := by
  refine (mem_ring_iff Nat.one_pos).mpr ⟨a, visits, ?_⟩
  rw [Nat.one_mul]
  exact List.mem_cons_self

theorem arc_joined (long : 1 < radius) {a : Nat} (visits : Visits radius 1 a) :
    Joined (ring radius 1) (0, (radius : Int) - 1) (a, height radius a) := by
  induction a with
  | zero =>
    rw [height_top]
    exact .refl
  | succ a ih =>
    have next := height_next long visits
    refine .tail (ih visits.before) ⟨arc_drawn visits.before, arc_drawn visits, touching_iff.mpr ?_⟩
    simp only [Nat.cast_succ]
    omega

theorem top_side_joined (long : 1 < radius) :
    Joined (ring radius 1) (0, (radius : Int) - 1) ((radius : Int) - 1, 0) := by
  obtain ⟨last, _, visits, ends⟩ := last_visited long
  have near := height_last long visits ends
  have path := arc_joined long visits
  have drawn := arc_drawn visits
  have across : Touching (((last + 1 : Nat) : Int), height radius (last + 1))
      (height radius (last + 1), ((last + 1 : Nat) : Int)) := by
    rw [touching_iff]
    omega
  exact (path.tail ⟨drawn, ring_swap Nat.one_pos drawn, across⟩).trans (path.swap Nat.one_pos).symm

-- What is joined to the top stays so when it is turned over, since the top is its own
-- image, and when it is swapped, since the top is joined to its image.
theorem top_joined (long : 1 < radius) :
    ∀ p ∈ ring radius 1, Joined (ring radius 1) (0, (radius : Int) - 1) p := by
  intro p drawn
  obtain ⟨a, visits, octant⟩ := (mem_ring_iff Nat.one_pos).mp drawn
  rw [Nat.one_mul] at octant
  refine octants_induction (arc_joined long visits) ?_ ?_ p octant
  · intro q joined
    have turned := joined.flip Nat.one_pos
    rwa [neg_zero] at turned
  · intro q joined
    exact (top_side_joined long).trans (joined.swap Nat.one_pos)

theorem ring_joined (long : 1 < radius) {p q : Int × Int} (first : p ∈ ring radius 1) (second : q ∈ ring radius 1) :
    Joined (ring radius 1) p q :=
  (top_joined long p first).symm.trans (top_joined long q second)

end

theorem outline_offsets {x y : Int32} {radius : UInt16}
    (unclamped : ∀ offset ∈ ring radius.toNat 1, Unclamped x y offset) :
    ((outline x y radius).map fun dot => dot.offset x y) = ring radius.toNat 1 := by
  rw [outline, List.map_map]
  refine (List.map_congr_left ?_).trans (List.map_id _)
  intro offset drawn
  exact offset_place (unclamped offset drawn) 1

-- An outline goes round its centre without a gap. Its groups of eight points begin on an
-- arc that starts level, never falls by more than one row and ends on the diagonal; all
-- of its points are in the band of the radius, and any two are joined.
theorem outline_closed (x y : Int32) (radius : UInt16) (long : 2 ≤ radius.toNat)
    (unclamped : ∀ offset ∈ ring radius.toNat 1, Unclamped x y offset) :
    let r : Int := radius.toNat
    let points := (outline x y radius).map fun dot => dot.offset x y
    (∃ (last : Nat) (b : Nat → Int),
      points.length = 8 * (last + 1) ∧ 1 ≤ last ∧
      (∀ a, a ≤ last → points[8 * a]? = some ((a : Int), b a)) ∧
      b 0 = r - 1 ∧ b 1 = r - 1 ∧
      (∀ a, a < last → b (a + 1) = b a ∨ b (a + 1) = b a - 1) ∧
      (b last = last - 1 ∨ b last = last)) ∧
    (∀ p ∈ points,
      (r - 1) ^ 2 ≤ p.1 ^ 2 + p.2 ^ 2 ∧ p.1 ^ 2 + p.2 ^ 2 ≤ r ^ 2 ∧ |p.1| ≤ r - 1 ∧ |p.2| ≤ r - 1) ∧
    ((∃ p ∈ points, p.1 = r - 1) ∧ (∃ p ∈ points, p.1 = -(r - 1)) ∧
      (∃ p ∈ points, p.2 = r - 1) ∧ ∃ p ∈ points, p.2 = -(r - 1)) ∧
    (∀ p ∈ points, (-p.1, p.2) ∈ points ∧ (p.2, p.1) ∈ points) ∧
    ∀ p ∈ points, ∀ q ∈ points, Joined points p q := by
  intro r points
  have drawn : points = ring radius.toNat 1 := outline_offsets unclamped
  rw [drawn]
  have positive : 0 < radius.toNat := by omega
  obtain ⟨last, count, visits, ends⟩ := last_visited long
  have top : (0, r - 1) ∈ ring radius.toNat 1 := by
    have first := arc_drawn (.first : Visits radius.toNat 1 0)
    rwa [height_top] at first
  have side : (r - 1, 0) ∈ ring radius.toNat 1 := ring_swap Nat.one_pos top
  have left : (-(r - 1), 0) ∈ ring radius.toNat 1 := ring_flip Nat.one_pos side
  refine ⟨⟨last + 1, height radius.toNat, ?_, Nat.succ_pos last, ?_, height_top _, height_second positive, ?_, ?_⟩,
    ?_, ⟨⟨_, side, rfl⟩, ⟨_, left, rfl⟩, ⟨_, top, rfl⟩, ⟨_, ring_swap Nat.one_pos left, rfl⟩⟩, ?_, ?_⟩
  · rw [ring_length, arc_length Nat.one_pos, count]
  · intro a within
    have first := ring_first Nat.one_pos (visits.of_le within)
    rwa [Nat.one_mul] at first
  · intro a within
    exact height_next long (visits.of_le within)
  · exact height_last long visits ends
  · intro p inside
    obtain ⟨inner, outer, across, along⟩ := ring_inBand Nat.one_pos positive p inside
    exact ⟨inner, outer, across, along⟩
  · intro p inside
    exact ⟨ring_flip Nat.one_pos inside, ring_swap Nat.one_pos inside⟩
  · intro p first q second
    exact ring_joined long first second

theorem outline_in_corner :
    let points := (outline 2147483643 (-2147483644) 5).map fun dot => dot.offset 2147483643 (-2147483644)
    (∀ offset ∈ ring 5 1, Unclamped 2147483643 (-2147483644) offset) ∧
      (∃ p ∈ points, p.1 = 4) ∧ Joined points (0, 4) (-4, -1) := by
  intro points
  have unclamped : ∀ offset ∈ ring 5 1, Unclamped 2147483643 (-2147483644) offset := by decide
  obtain ⟨_, _, ⟨right, _⟩, _, joined⟩ := outline_closed 2147483643 (-2147483644) 5 (by decide) unclamped
  exact ⟨unclamped, right, joined (0, 4) (by decide) (-4, -1) (by decide)⟩

end Circle

end SerialPanel
