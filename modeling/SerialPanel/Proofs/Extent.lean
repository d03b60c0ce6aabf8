import SerialPanel.Proofs.Dispatch
import SerialPanel.Proofs.Placement
import SerialPanel.Proofs.Ring
namespace SerialPanel

namespace Dot

def coordinates (dot : Dot) : List Int := [dot.x, dot.y]

def content (color : Color) (dot : Dot) : Bytes :=
  0x51 :: bigEndian 2 color.value.toNat ++ [dot.size, dot.size] ++ bigEndian 2 dot.x.toNat ++ bigEndian 2 dot.y.toNat

theorem encoded (color : Color) (dot : Dot) :
    (Instruction.point color dot.size dot.size dot.x dot.y).encode =
      match dot.coordinates.find? fun value => OffWire value with
      | some value => .error (.fieldOverflow .word value)
      | none => .ok (dot.content color) := by
  have front : ∀ field ∈ [Instruction.byteField Opcode.line, Instruction.colorField color,
      Instruction.byteField dot.size, Instruction.byteField dot.size], field.Fits := by simp
  have bytes : (Instruction.point color dot.size dot.size dot.x dot.y).fields.flatMap Field.bytes = dot.content color := by
    simp only [Instruction.fields, List.flatMap_cons, List.flatMap_nil, Instruction.byteField_bytes, content,
      List.append_assoc, List.append_nil]
    rfl
  rw [← bytes]
  exact Instruction.placed_encoded dot.x dot.y front (List.forall_mem_nil _)

end Dot

theorem dots_encoded (color : Color) (points : List Dot) :
    ((Command.dots color points).mapM fun entry => entry >>= Instruction.encode) =
      match (points.flatMap Dot.coordinates).find? fun value => OffWire value with
      | some value => .error (.fieldOverflow .word value)
      | none => .ok (points.map (Dot.content color)) := by
  induction points with
  | nil => rfl
  | cons dot later ih =>
    have planned : Command.dots color (dot :: later) =
        .ok (.point color dot.size dot.size dot.x dot.y) :: Command.dots color later := rfl
    have own : (Except.ok (Instruction.point color dot.size dot.size dot.x dot.y) >>= Instruction.encode) = _ :=
      dot.encoded color
    rw [planned, List.mapM_cons, ih, own, List.flatMap_cons, List.find?_append]
    cases dot.coordinates.find? fun value => OffWire value with
    | some value => rfl
    | none =>
      cases (later.flatMap Dot.coordinates).find? fun value => OffWire value with
      | some value => rfl
      | none => rfl

theorem dots_frames {screen : Screen} {command : Command} {color : Color} {points : List Dot}
    (planned : command.plan screen = Command.dots color points) :
    command.frames screen =
      match (points.flatMap Dot.coordinates).find? fun value => OffWire value with
      | some value => .error (.fieldOverflow .word value)
      | none => .ok (points.map (Dot.content color)) := by
  rw [← dots_encoded, ← planned]
  rfl

namespace Circle

def Spans (reach centre : Int) : Prop := 0 ≤ centre - reach ∧ centre + reach ≤ 65535

section

variable {radius stride : Nat}

theorem ring_reach (moves : 0 < stride) {p : Int × Int} (drawn : p ∈ ring radius stride) :
    |p.1| ≤ |(radius : Int) - 1| ∧ |p.2| ≤ |(radius : Int) - 1| := by
  rcases Nat.eq_zero_or_pos radius with rfl | positive
  · obtain ⟨step, visits, octant⟩ := (mem_ring_iff moves).mp drawn
    have still : stride * step = 0 := Nat.le_zero.mp visits.offset_le
    rw [still, height_top, mem_octants] at octant
    simp only [Nat.cast_zero, zero_sub, neg_neg, neg_zero, or_self] at octant
    simp only [Nat.cast_zero, zero_sub, abs_neg, abs_one, abs_le]
    omega
  · obtain ⟨_, _, across, along⟩ := ring_inBand moves positive p drawn
    exact ⟨across.trans (le_abs_self _), along.trans (le_abs_self _)⟩

theorem ring_axis (moves : 0 < stride) {p : Int × Int}
    (axis : p.1 = 0 ∧ (p.2 = radius - 1 ∨ p.2 = -(radius - 1)) ∨ (p.1 = radius - 1 ∨ p.1 = -(radius - 1)) ∧ p.2 = 0) :
    p ∈ ring radius stride := by
  refine (mem_ring_iff moves).mpr ⟨0, .first, ?_⟩
  rw [Nat.mul_zero, height_top, mem_octants]
  simp
  omega

theorem ring_onWire (moves : 0 < stride) (x y : Int) :
    (∀ p ∈ ring radius stride, ¬OffWire (x + p.1) ∧ ¬OffWire (y + p.2)) ↔
      Spans |(radius : Int) - 1| x ∧ Spans |(radius : Int) - 1| y := by
  unfold OffWire Spans
  constructor
  · intro carried
    -- The dots on the axes reach farthest. At radius zero they have changed sides.
    have top := carried (0, radius - 1) (ring_axis moves (.inl ⟨rfl, .inl rfl⟩))
    have bottom := carried (0, -(radius - 1)) (ring_axis moves (.inl ⟨rfl, .inr rfl⟩))
    have right := carried (radius - 1, 0) (ring_axis moves (.inr ⟨.inl rfl, rfl⟩))
    have left := carried (-(radius - 1), 0) (ring_axis moves (.inr ⟨.inr rfl, rfl⟩))
    simp only at top bottom right left
    rcases abs_choice ((radius : Int) - 1) with same | opposite
    · rw [same]
      omega
    · rw [opposite]
      omega
  · intro spans p drawn
    obtain ⟨across, along⟩ := ring_reach moves drawn
    rw [abs_le] at across along
    omega

end

def disc (radius : Nat) : List (Int × Int) := (List.range' 1 radius).reverse.flatMap fun r => ring r 2

theorem filled_disc (x y : Int32) (radius : UInt16) : filled x y radius = (disc radius.toNat).map (place x y 2) :=
  (List.map_flatMap ..).symm

theorem disc_onWire {radius : Nat} (positive : 1 ≤ radius) (x y : Int) :
    (∀ p ∈ disc radius, ¬OffWire (x + p.1) ∧ ¬OffWire (y + p.2)) ↔
      Spans |(radius : Int) - 1| x ∧ Spans |(radius : Int) - 1| y := by
  constructor
  · intro carried
    apply (ring_onWire Nat.two_pos x y).mp
    intro p drawn
    apply carried
    refine List.mem_flatMap.mpr ⟨radius, ?_, drawn⟩
    rw [List.mem_reverse, List.mem_range'_1]
    omega
  · intro spans p drawn
    obtain ⟨r, within, inner⟩ := List.mem_flatMap.mp drawn
    rw [List.mem_reverse, List.mem_range'_1] at within
    refine (ring_onWire Nat.two_pos x y).mpr ?_ p inner
    unfold Spans at spans ⊢
    rw [abs_of_nonneg (by omega)] at spans ⊢
    omega

theorem place_onWire (x y : Int32) (size : UInt8) (offsets : List (Int × Int)) :
    (((offsets.map (place x y size)).flatMap Dot.coordinates).find? fun value => OffWire value) = none ↔
      ∀ p ∈ offsets, ¬OffWire (x.toInt + p.1) ∧ ¬OffWire (y.toInt + p.2) := by
  rw [List.find?_eq_none, List.forall_mem_flatMap, List.forall_mem_map]
  simp only [Dot.coordinates, place, List.forall_mem_cons, decide_eq_true_iff, clampCoordinate_offWire,
    List.not_mem_nil, false_imp_iff, implies_true, and_true]

theorem place_exact {x y : Int32} {offsets : List (Int × Int)} (size : UInt8)
    (onWire : ∀ p ∈ offsets, ¬OffWire (x.toInt + p.1) ∧ ¬OffWire (y.toInt + p.2)) :
    offsets.map (place x y size) = offsets.map fun offset => ⟨x.toInt + offset.1, y.toInt + offset.2, size⟩ := by
  apply List.map_congr_left
  intro offset drawn
  obtain ⟨across, along⟩ := onWire offset drawn
  unfold OffWire at across along
  have unclamped : Unclamped x y offset := by
    unfold Unclamped Narrow
    omega
  exact place_unclamped unclamped size

structure Decided {σ : Type} [Line σ] (display : Display σ) (command : Command) (color : Color) (x y : Int32)
    (size : UInt8) (points : List Dot) (offsets : List (Int × Int)) (inside : Prop) : Prop where
  drawn : (display.draw command).1 = .ok () ↔ inside
  exact : inside → points = offsets.map fun offset => ⟨x.toInt + offset.1, y.toInt + offset.2, size⟩
  sent : inside → display.Wrote command (points.map (Dot.content color))
  refused : ¬inside → ∃ value, (points.flatMap Dot.coordinates).find? (fun value => OffWire value) = some value ∧
    display.Refused command .word value

theorem decided {σ : Type} [Line σ] {display : Display σ} (accepts : Line.Accepts display.link.line)
    {command : Command} {color : Color} {x y : Int32} {size : UInt8} {offsets : List (Int × Int)} {inside : Prop}
    (planned : command.plan display.settings.screen = Command.dots color (offsets.map (place x y size)))
    (onWire : (∀ p ∈ offsets, ¬OffWire (x.toInt + p.1) ∧ ¬OffWire (y.toInt + p.2)) ↔ inside) :
    Decided display command color x y size (offsets.map (place x y size)) offsets inside := by
  have made := dots_frames planned
  have none_iff := (place_onWire x y size offsets).trans onWire
  cases found : ((offsets.map (place x y size)).flatMap Dot.coordinates).find? fun value => OffWire value with
  | some value =>
    rw [found] at made none_iff
    have outside : ¬inside := mt none_iff.mpr (Option.some_ne_none value)
    have refused := Display.draw_refused made
    refine ⟨iff_of_false ?_ outside, ?_, ?_, ?_⟩
    · rw [refused.result]
      simp
    · exact fun holds => absurd holds outside
    · exact fun holds => absurd holds outside
    · exact fun _ => ⟨value, found, refused⟩
  | none =>
    rw [found] at made none_iff
    have holds : inside := none_iff.mp rfl
    have wrote := Display.draw_wrote accepts made
    refine ⟨iff_of_true wrote.result holds, ?_, ?_, ?_⟩
    · exact fun _ => place_exact size (onWire.mpr holds)
    · exact fun _ => wrote
    · exact fun outside => absurd holds outside

-- Exactly those circles can be drawn whose outermost dots lie on the wire, and one that
-- can is sent dot by dot in the order in which it is rasterised. A radius of zero needs
-- as much room as one of two.
theorem circles_decided {σ : Type} [Line σ] {display : Display σ} (accepts : Line.Accepts display.link.line)
    (color : Color) (x y : Int32) (radius : UInt16) :
    let e : Int := |(radius.toNat : Int) - 1|
    let inside : Prop := (0 ≤ x.toInt - e ∧ x.toInt + e ≤ 65535) ∧ 0 ≤ y.toInt - e ∧ y.toInt + e ≤ 65535
    Decided display (.drawCircle color x y radius) color x y 1 (outline x y radius) (ring radius.toNat 1) inside ∧
      (1 ≤ radius.toNat →
        Decided display (.fillCircle color x y radius) color x y 2 (filled x y radius) (disc radius.toNat) inside) ∧
      (radius.toNat = 0 → display.Wrote (.fillCircle color x y radius) []) := by
  intro e inside
  refine ⟨?_, fun positive => ?_, fun zero => ?_⟩
  · exact decided accepts rfl (ring_onWire Nat.one_pos x.toInt y.toInt)
  · rw [filled_disc]
    apply decided accepts ?_ (disc_onWire positive x.toInt y.toInt)
    rw [← filled_disc]
    rfl
  · have nothing : filled x y radius = [] := by
      unfold filled
      rw [zero]
      rfl
    apply Display.draw_wrote accepts
    unfold Command.frames
    rw [Command.plan, nothing]
    rfl

theorem smallest_circles_decided :
    let display : Display Panel := ⟨.ofLine {} {}, {}⟩
    Line.Accepts display.link.line ∧
      display.Wrote (.drawCircle Color.white 65535 0 1) (List.replicate 8 [0x51, 0xFF, 0xFF, 1, 1, 0xFF, 0xFF, 0, 0]) ∧
      display.Refused (.drawCircle Color.white 65535 10 0) .word 65536 ∧
      display.Refused (.fillCircle Color.white 100 2147483647 5) .word 2147483647 ∧
      display.Wrote (.fillCircle Color.white (-1) (-1) 0) [] := by
  intro display
  have accepts : Line.Accepts display.link.line := Panel.Open.accepts fun _ _ => rfl
  obtain ⟨one, _, _⟩ := circles_decided accepts Color.white 65535 0 1
  obtain ⟨zero, _, _⟩ := circles_decided accepts Color.white 65535 10 0
  obtain ⟨_, five, _⟩ := circles_decided accepts Color.white 100 2147483647 5
  obtain ⟨_, _, empty⟩ := circles_decided accepts Color.white (-1) (-1) 0
  have drawn := one.sent (by decide)
  obtain ⟨seventh, beside, unfit⟩ := zero.refused (by decide)
  obtain ⟨stopped, below, beyond⟩ := (five (by decide)).refused (by decide)
  have points : (outline 65535 0 1).map (Dot.content Color.white) =
      List.replicate 8 [0x51, 0xFF, 0xFF, 1, 1, 0xFF, 0xFF, 0, 0] := by decide
  rw [points] at drawn
  cases (show some (65536 : Int) = some seventh from beside)
  cases (show some (2147483647 : Int) = some stopped from below)
  exact ⟨accepts, drawn, unfit, beyond, empty rfl⟩

end Circle

end SerialPanel
