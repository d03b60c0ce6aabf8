import SerialPanel.Proofs.History
import SerialPanel.Proofs.Recording
namespace SerialPanel

namespace Command

def OnWire (coordinate : Int32) : Prop := 0 ≤ coordinate.toInt ∧ coordinate.toInt ≤ 65535

instance : DecidablePred OnWire := fun coordinate =>
  inferInstanceAs (Decidable (0 ≤ coordinate.toInt ∧ coordinate.toInt ≤ 65535))

def IsPlain : Command → Prop
  | .drawCircle .. | .fillCircle .. | .drawSigned .. => False
  | _ => True

-- What a plain command asks of its arguments. An icon is moved onto the screen
-- first, so that only the near edges can be missed.
def Sendable : Command → Prop
  | .drawPoint _ _ _ x y => OnWire x ∧ OnWire y
  | .drawLine _ x0 y0 x1 y1 => OnWire x0 ∧ OnWire y0 ∧ OnWire x1 ∧ OnWire y1
  | .drawRectangle _ _ x0 y0 x1 y1 => OnWire x0 ∧ OnWire y0 ∧ OnWire x1 ∧ OnWire y1
  | .drawText _ _ _ _ x y _ => OnWire x ∧ OnWire y
  | .drawInteger mode _ _ _ x y value =>
    OnWire x ∧ OnWire y ∧ (mode.signed = false → 0 ≤ value.toInt)
  | .drawFixedPoint mode _ _ _ _ x y value =>
    OnWire x ∧ OnWire y ∧
      if mode.signed then -2147483648 ≤ value.toInt ∧ value.toInt ≤ 2147483647
      else 0 ≤ value.toInt ∧ value.toInt ≤ 4294967295
  | .drawIcon _ _ _ x y => 0 ≤ x.toInt ∧ 0 ≤ y.toInt
  | .moveArea _ _ _ x0 y0 x1 y1 => OnWire x0 ∧ OnWire y0 ∧ OnWire x1 ∧ OnWire y1
  | _ => True

theorem encodes_iff (instruction : Instruction) :
    (∃ content, (Except.ok instruction >>= Instruction.encode) = .ok content) ↔
      ∀ field ∈ instruction.fields, field.Fits := by
  change (∃ content, instruction.encode = .ok content) ↔ _
  simp [Instruction.encode_ok_iff]

theorem onScreen_fits {extent : UInt16} (visible : extent ≠ 0) (position : Int32) :
    0 ≤ onScreen position extent ∧ onScreen position extent ≤ 0xFFFF ↔ 0 ≤ position.toInt := by
  have positive : extent.toNat ≠ 0 := fun zero => visible (UInt16.toNat_inj.mp zero)
  have bounded := extent.toNat_lt
  unfold onScreen
  omega

theorem integer_carried (mode : NumberMode) (value : Int64) :
    Instruction.Carries mode .double value.toInt ↔ (mode.signed = false → 0 ≤ value.toInt) := by
  have low := value.le_toInt
  have high := value.toInt_lt
  unfold Instruction.Carries
  cases mode.signed
  · simp only [FieldWidth.max, Bool.false_eq_true, if_false, forall_const]
    omega
  · simp only [FieldWidth.half, if_true, reduceCtorEq, false_imp_iff, iff_true]
    omega

theorem fixedPoint_carried (mode : NumberMode) (value : Int64) :
    Instruction.Carries mode .long value.toInt ↔
      if mode.signed then -2147483648 ≤ value.toInt ∧ value.toInt ≤ 2147483647
      else 0 ≤ value.toInt ∧ value.toInt ≤ 4294967295 := by
  unfold Instruction.Carries
  cases mode.signed
  · simp only [FieldWidth.max, Bool.false_eq_true, if_false]
    omega
  · simp only [FieldWidth.half, if_true]
    omega

theorem frames_succeed_iff {screen : Screen} (wide : screen.width ≠ 0) (high : screen.height ≠ 0)
    {command : Command} (plain : command.IsPlain) :
    (∃ contents, command.frames screen = .ok contents) ↔ command.Sendable := by
  unfold frames
  rw [mapM_succeeds_iff]
  cases command with
  | drawCircle | fillCircle | drawSigned => exact absurd plain id
  | drawIcon showBackground library picture x y =>
    simp [plan, encodes_iff, Instruction.fields, Sendable, onScreen_fits wide, onScreen_fits high]
  | drawInteger mode color background digits x y value =>
    simp [plan, encodes_iff, Instruction.fields, Sendable, OnWire, integer_carried]
  | drawFixedPoint mode color background digits fraction x y value =>
    simp [plan, encodes_iff, Instruction.fields, Sendable, OnWire, fixedPoint_carried]
  | setOrientation rotation =>
    simp [plan, encodes_iff, Instruction.fields, Opcode.orientationKey, Sendable]
  | _ => simp [plan, encodes_iff, Instruction.fields, Sendable, OnWire]

theorem magnitude_fault {value : Int64} {fault : Fault} (failed : magnitude value = .error fault) :
    ∃ width value, fault = .fieldOverflow width value := by
  simp only [magnitude] at failed
  split at failed
  · cases failed
  · cases failed
    exact ⟨_, _, rfl⟩

theorem plan_fault {screen : Screen} {command : Command} {fault : Fault}
    (broken : Except.error fault ∈ command.plan screen) : ∃ width value, fault = .fieldOverflow width value := by
  cases command with
  | drawSigned showBackground font color background digits fraction x y value =>
    simp only [plan, List.mem_cons, List.not_mem_nil, or_false, reduceCtorEq, false_or] at broken
    cases sized : magnitude value with
    | ok size =>
      rw [sized] at broken
      cases broken
    | error other =>
      rw [sized] at broken
      cases broken
      exact magnitude_fault sized
  | drawCircle | fillCircle => simp [plan, dots] at broken
  | _ => simp [plan] at broken

theorem frames_error {screen : Screen} {command : Command} {fault : Fault}
    (failed : command.frames screen = .error fault) : ∃ width value, fault = .fieldOverflow width value := by
  obtain ⟨entry, planned, refused⟩ := mapM_error failed
  cases entry with
  | error other =>
    cases refused
    exact plan_fault planned
  | ok instruction => exact Instruction.encode_error refused

end Command

namespace Display

variable {σ : Type} [Line σ]

theorem draw_frames {display : Display σ} {command : Command} {contents : List Bytes}
    (made : command.frames display.settings.screen = .ok contents) :
    display.draw command = display.transmit contents := by
  rw [draw_exact]
  unfold issue
  rw [made]

theorem draw_unmade {display : Display σ} {command : Command} {fault : Fault}
    (failed : command.frames display.settings.screen = .error fault) :
    display.draw command = (.error fault, display) := by
  rw [draw_exact]
  unfold issue
  rw [failed]

-- A command that is refused for one of its numbers leaves the whole display as it
-- was, whatever the display went through before. The line is part of it: one that
-- counts the writes tried on it has counted none.
theorem draw_all_or_nothing {settings : Settings} {display : Display σ}
    (reached : Reached settings display) (command : Command) :
    (∀ width value, (display.draw command).1 = .error (.fieldOverflow width value) →
      (display.draw command).2 = display) ∧
    (command.IsPlain →
      (¬command.Sendable → ∃ width value, (display.draw command).1 = .error (.fieldOverflow width value)) ∧
      (Line.Accepts display.link.line → ((display.draw command).1 = .ok () ↔ command.Sendable))) := by
  obtain ⟨own, linked, usable⟩ := reached_settings reached
  cases made : command.frames display.settings.screen with
  | error fault =>
    obtain ⟨width, value, rfl⟩ := Command.frames_error made
    rw [draw_unmade made]
    refine ⟨fun _ _ _ => rfl, fun plain => ?_⟩
    have unsendable : ¬command.Sendable := by
      intro sendable
      obtain ⟨contents, succeeded⟩ :=
        (Command.frames_succeed_iff (own ▸ usable.1) (own ▸ usable.2.1) plain).mpr sendable
      rw [made] at succeeded
      cases succeeded
    exact ⟨fun _ => ⟨width, value, rfl⟩, fun _ => by simp [unsendable]⟩
  | ok contents =>
    rw [draw_frames made]
    constructor
    · intro width value refused
      obtain ⟨operation, source, impossible⟩ := Link.transmitAll_error refused
      cases impossible
    · intro plain
      have sendable : command.Sendable :=
        (Command.frames_succeed_iff (own ▸ usable.1) (own ▸ usable.2.1) plain).mp ⟨contents, made⟩
      refine ⟨fun unsendable => absurd sendable unsendable, fun accepts => ?_⟩
      have sent : (display.transmit contents).1 = .ok () := Link.transmitAll_accepted accepts contents
      exact iff_of_true sent sendable

theorem rectangle_beside_screen :
    let display : Display Panel := after ⟨.ofLine {} {}, {}⟩ (.draw .refresh)
    let beside : Command := .drawRectangle .filled Color.yellow 10 20 (-1) 40
    let inside : Command := .drawRectangle .filled Color.yellow 10 20 30 40
    Reached {} display ∧ Line.Accepts display.link.line ∧ beside.IsPlain ∧ inside.IsPlain ∧
      (∃ width value, (display.draw beside).1 = .error (.fieldOverflow width value)) ∧
      (display.draw beside).2 = display ∧ (display.draw inside).1 = .ok () := by
  intro display beside inside
  have reached : Reached {} display := .followed (.connected rfl) (.draw .refresh)
  have accepts : Line.Accepts display.link.line := Panel.Open.accepts fun _ _ => rfl
  have missed : ¬(Command.OnWire 10 ∧ Command.OnWire 20 ∧ Command.OnWire (-1) ∧ Command.OnWire 40) := by
    decide
  have met : Command.OnWire 10 ∧ Command.OnWire 20 ∧ Command.OnWire 30 ∧ Command.OnWire 40 := by decide
  obtain ⟨unchanged, decided⟩ := draw_all_or_nothing reached beside
  obtain ⟨width, value, refused⟩ := (decided trivial).1 missed
  refine ⟨reached, accepts, trivial, trivial, ⟨width, value, refused⟩, unchanged width value refused, ?_⟩
  exact (((draw_all_or_nothing reached inside).2 trivial).2 accepts).mpr met

end Display

end SerialPanel
