import SerialPanel.Proofs.Dispatch
import SerialPanel.Proofs.Placement
namespace SerialPanel

theorem toInt_opposite {value : Int64} (paired : value ≠ Int64.minValue) : (-value).toInt = -value.toInt := by
  have low := value.le_toInt
  have high := value.toInt_lt
  have other : value.toInt ≠ -0x8000000000000000 := fun same => paired (Int64.toInt_inj.mp same)
  rw [Int64.toInt_neg, Int.bmod_eq_of_le (by omega) (by omega)]

theorem negative_opposite {value : Int64} (nonzero : value ≠ 0) (paired : value ≠ Int64.minValue) :
    -value < 0 ↔ ¬value < 0 := by
  have other : value.toInt ≠ 0 := fun same => nonzero (Int64.toInt_inj.mp same)
  rw [Int64.lt_iff_toInt_lt, Int64.lt_iff_toInt_lt, toInt_opposite paired, Int64.toInt_zero]
  omega

namespace Command

theorem glyph_opposite {value : Int64} (nonzero : value ≠ 0) (paired : value ≠ Int64.minValue) :
    (if -value < 0 then 0x2D else 0x20 : UInt8) = if value < 0 then 0x20 else 0x2D := by
  rw [← ite_not]
  exact if_congr (not_congr (negative_opposite nonzero paired) |>.trans Decidable.not_not) rfl rfl

theorem magnitude_opposite {value : Int64} (paired : value ≠ Int64.minValue) : magnitude (-value) = magnitude value := by
  unfold magnitude
  rw [toInt_opposite paired, Int.natAbs_neg]

theorem glyph_bytes (value : Int64) :
    utf8 (if value < 0 then "-" else " ") = [if value < 0 then 0x2D else 0x20] := by
  split
  · rfl
  · rfl

section

variable (screen : Screen) (showBackground : Bool) (font : Font) (color background : Color)
  (digits fraction : UInt8) (x y : Int32) (value : Int64)

def sign : Command :=
  .drawText showBackground font color background (x - 6) (y - 3) (if value < 0 then "-" else " ")

def unsignedNumber : Command :=
  .drawFixedPoint (.unsigned showBackground false false font) color background digits fraction x y
    (Int64.ofInt value.toInt.natAbs)

def numberFrame (size : Except Fault Int) : Except Fault Bytes := do
  (Instruction.fixedPoint (.unsigned showBackground false false font) color background digits fraction
    x.toInt y.toInt (← size)).encode

def signHeader (across along : Int) : Bytes :=
  Instruction.textHeader (.adjusted showBackground font) color background across along

theorem signed_frames :
    (drawSigned showBackground font color background digits fraction x y value).frames screen =
      match [clampCoordinate (x.toInt - 6), clampCoordinate (y.toInt - 3)].find? fun place => OffWire place with
      | some place => .error (.fieldOverflow .word place)
      | none => (numberFrame showBackground font color background digits fraction x y (magnitude value)).map
          fun number => [signHeader showBackground font color background (clampCoordinate (x.toInt - 6))
            (clampCoordinate (y.toInt - 3)) ++ [if value < 0 then 0x2D else 0x20], number] := by
  have second : ((magnitude value).map fun size =>
      Instruction.fixedPoint (.unsigned showBackground false false font) color background digits fraction
        x.toInt y.toInt size) >>= Instruction.encode =
      numberFrame showBackground font color background digits fraction x y (magnitude value) := by
    cases magnitude value with
    | error fault => rfl
    | ok size => rfl
  have first : (Except.ok (Instruction.text (.adjusted showBackground font) color background
      (clampCoordinate (x.toInt - signLeft)) (clampCoordinate (y.toInt - signAbove))
      (if value < 0 then "-" else " ")) >>= Instruction.encode) = _ := Instruction.text_encoded ..
  unfold frames
  rw [plan, List.mapM_cons, List.mapM_cons, List.mapM_nil, first, second, glyph_bytes]
  unfold signHeader signLeft signAbove
  cases [clampCoordinate (x.toInt - 6), clampCoordinate (y.toInt - 3)].find? fun place => OffWire place with
  | some place => rfl
  | none =>
    cases numberFrame showBackground font color background digits fraction x y (magnitude value) with
    | error fault => rfl
    | ok number => rfl

theorem sign_frames :
    (sign showBackground font color background x y value).frames screen =
      match [(x - 6).toInt, (y - 3).toInt].find? fun place => OffWire place with
      | some place => .error (.fieldOverflow .word place)
      | none => .ok [signHeader showBackground font color background (x - 6).toInt (y - 3).toInt ++
          [if value < 0 then 0x2D else 0x20]] := by
  have whole : String.ofList ((if value < 0 then "-" else " ").toList.take maxTextLength) =
      if value < 0 then "-" else " " := by
    split
    · rfl
    · rfl
  have made := text_frames screen showBackground font color background (x - 6) (y - 3) (if value < 0 then "-" else " ")
  rw [whole, glyph_bytes] at made
  exact made

theorem unsignedNumber_frames (small : value.toInt.natAbs ≤ 4294967295) :
    (unsignedNumber showBackground font color background digits fraction x y value).frames screen =
      (numberFrame showBackground font color background digits fraction x y (magnitude value)).map
        fun number => [number] := by
  have size : (Int64.ofInt value.toInt.natAbs).toInt = value.toInt.natAbs :=
    Int64.toInt_ofInt_of_le (by omega) (by omega)
  have sized : magnitude value = .ok (value.toInt.natAbs : Int) := if_pos (by omega)
  unfold frames unsignedNumber
  rw [plan, size, sized, List.mapM_cons, List.mapM_nil]
  change (Instruction.encode _ >>= _) = Except.map _ (Instruction.encode _)
  cases Instruction.encode _ with
  | error fault => rfl
  | ok number => rfl

theorem numberFrame_made_iff :
    (∃ number, numberFrame showBackground font color background digits fraction x y (magnitude value) = .ok number) ↔
      ¬OffWire x.toInt ∧ ¬OffWire y.toInt ∧ value.toInt.natAbs ≤ 4294967295 := by
  by_cases representable : value.toInt.natAbs < 0x8000000000000000
  · have sized : magnitude value = .ok (value.toInt.natAbs : Int) := if_pos representable
    rw [sized]
    have carried : Instruction.Carries (.unsigned showBackground false false font) .long value.toInt.natAbs ↔
        value.toInt.natAbs ≤ 4294967295 := by
      change 0 ≤ (value.toInt.natAbs : Int) ∧ (value.toInt.natAbs : Int) ≤ (4294967295 : Nat) ↔ _
      omega
    refine (encodes_iff _).trans ?_
    simp only [Instruction.fields, List.forall_mem_cons, List.not_mem_nil, false_imp_iff, implies_true, and_true,
      Instruction.byteField_fits, Instruction.colorField_fits, true_and, Instruction.coordinate_fits,
      Instruction.valueField_fits, carried, OffWire]
    omega
  · have sized : magnitude value = .error (.fieldOverflow .long (value.toInt.natAbs : Int)) := if_neg representable
    rw [sized]
    constructor
    · rintro ⟨number, made⟩
      cases made
    · intro small
      omega

theorem sign_placed :
    ([clampCoordinate (x.toInt - 6), clampCoordinate (y.toInt - 3)].find? fun place => OffWire place) = none ↔
      ¬OffWire (x.toInt - 6) ∧ ¬OffWire (y.toInt - 3) := by
  simp [clampCoordinate_offWire]

theorem signed_made_iff :
    (∃ contents,
      (drawSigned showBackground font color background digits fraction x y value).frames screen = .ok contents) ↔
      (6 ≤ x.toInt ∧ x.toInt ≤ 65535) ∧ (3 ≤ y.toInt ∧ y.toInt ≤ 65535) ∧ value.toInt.natAbs ≤ 4294967295 := by
  have whole : (∃ contents,
      (drawSigned showBackground font color background digits fraction x y value).frames screen = .ok contents) ↔
      ([clampCoordinate (x.toInt - 6), clampCoordinate (y.toInt - 3)].find? fun place => OffWire place) = none ∧
        ∃ number, numberFrame showBackground font color background digits fraction x y (magnitude value) = .ok number := by
    rw [signed_frames]
    cases [clampCoordinate (x.toInt - 6), clampCoordinate (y.toInt - 3)].find? fun place => OffWire place with
    | some place => simp
    | none =>
      cases numberFrame showBackground font color background digits fraction x y (magnitude value) with
      | error fault => simp [Except.map]
      | ok number => simp [Except.map]
  rw [whole, sign_placed, numberFrame_made_iff]
  unfold OffWire
  omega

theorem signed_split {contents : List Bytes}
    (made : (drawSigned showBackground font color background digits fraction x y value).frames screen = .ok contents) :
    ∃ text number, contents = [text, number] ∧
      (sign showBackground font color background x y value).frames screen = .ok [text] ∧
      (unsignedNumber showBackground font color background digits fraction x y value).frames screen = .ok [number] := by
  obtain ⟨⟨left, _⟩, ⟨top, _⟩, small⟩ :=
    (signed_made_iff screen showBackground font color background digits fraction x y value).mp ⟨contents, made⟩
  have right := x.toInt_lt
  have bottom := y.toInt_lt
  have across : (x - 6).toInt = x.toInt - 6 := Int32.toInt_sub_of_le x 6 (by decide) (Int32.le_iff_toInt_le.mpr left)
  have along : (y - 3).toInt = y.toInt - 3 := Int32.toInt_sub_of_le y 3 (by decide) (Int32.le_iff_toInt_le.mpr top)
  have unclamped : clampCoordinate (x.toInt - 6) = x.toInt - 6 ∧ clampCoordinate (y.toInt - 3) = y.toInt - 3 := by
    unfold clampCoordinate
    omega
  rw [sign_frames, unsignedNumber_frames _ _ _ _ _ _ _ _ _ _ small, across, along]
  rw [signed_frames, unclamped.1, unclamped.2] at made
  cases found : [x.toInt - 6, y.toInt - 3].find? fun place => OffWire place with
  | some place =>
    rw [found] at made
    cases made
  | none =>
    rw [found] at made
    cases numbered : numberFrame showBackground font color background digits fraction x y (magnitude value) with
    | error fault =>
      rw [numbered] at made
      cases made
    | ok number =>
      rw [numbered] at made
      cases made
      exact ⟨_, number, rfl, rfl, rfl⟩

theorem opposite_frames (paired : value ≠ Int64.minValue) :
    (∃ fault, (drawSigned showBackground font color background digits fraction x y value).frames screen = .error fault ∧
      (drawSigned showBackground font color background digits fraction x y (-value)).frames screen = .error fault) ∨
    ∃ header number,
      (drawSigned showBackground font color background digits fraction x y value).frames screen =
        .ok [header ++ [if value < 0 then 0x2D else 0x20], number] ∧
      (drawSigned showBackground font color background digits fraction x y (-value)).frames screen =
        .ok [header ++ [if -value < 0 then 0x2D else 0x20], number] := by
  rw [signed_frames, signed_frames, magnitude_opposite paired]
  cases [clampCoordinate (x.toInt - 6), clampCoordinate (y.toInt - 3)].find? fun place => OffWire place with
  | some place => exact .inl ⟨_, rfl, rfl⟩
  | none =>
    cases numberFrame showBackground font color background digits fraction x y (magnitude value) with
    | error fault => exact .inl ⟨fault, rfl, rfl⟩
    | ok number => exact .inr ⟨_, number, rfl, rfl⟩

end

end Command

namespace Display

variable {σ : Type} [Line σ]

theorem signed_opposite {display : Display σ} (accepts : Line.Accepts display.link.line)
    (showBackground : Bool) (font : Font) (color background : Color) (digits fraction : UInt8) (x y : Int32)
    {value : Int64} (nonzero : value ≠ 0) (paired : value ≠ Int64.minValue) :
    let signed : Command := .drawSigned showBackground font color background digits fraction x y value
    let opposite : Command := .drawSigned showBackground font color background digits fraction x y (-value)
    (display.draw opposite).1 = (display.draw signed).1 ∧
      ((display.draw signed).1 = .ok () → ∃ header later,
        display.attempts signed = Tape.taken (header ++ [if value < 0 then 0x2D else 0x20]) :: later ∧
        display.attempts opposite = Tape.taken (header ++ [if value < 0 then 0x20 else 0x2D]) :: later) := by
  intro signed opposite
  have frames := Command.opposite_frames display.settings.screen showBackground font color background digits fraction
    x y value paired
  rw [Command.glyph_opposite nonzero paired] at frames
  rcases frames with ⟨fault, failed, failedToo⟩ | ⟨header, figures, made, madeToo⟩
  · have left : display.draw signed = (.error fault, display) := draw_unmade failed
    have right : display.draw opposite = (.error fault, display) := draw_unmade failedToo
    rw [left, right]
    exact ⟨rfl, fun sent => nomatch sent⟩
  · have one := draw_wrote accepts made
    have other := draw_wrote accepts madeToo
    have headed : ∀ glyph, display.link.settings.headed (header ++ [glyph]) =
        display.link.settings.headed header ++ [glyph] := fun glyph => (List.append_assoc ..).symm
    have split : ∀ glyph, ([header ++ [glyph], figures].flatMap display.link.settings.framed).map Tape.taken =
        Tape.taken (display.link.settings.headed header ++ [glyph]) ::
          ([frameTail] ++ display.link.settings.framed figures).map Tape.taken := by
      intro glyph
      rw [← headed]
      simp [LinkSettings.framed]
    refine ⟨other.result.trans one.result.symm, fun _ => ?_⟩
    exact ⟨_, _, one.attempts.trans (split _), other.attempts.trans (split _)⟩

-- Drawing a signed number is drawing its sign and then its magnitude, or nothing: it
-- goes out where both would, and is refused as a whole where either would not.
theorem signed_composed {display : Display σ} (accepts : Line.Accepts display.link.line)
    (showBackground : Bool) (font : Font) (color background : Color) (digits fraction : UInt8) (x y : Int32)
    (value : Int64) :
    let signed : Command := .drawSigned showBackground font color background digits fraction x y value
    let opposite : Command := .drawSigned showBackground font color background digits fraction x y (-value)
    let sign : Command :=
      .drawText showBackground font color background (x - 6) (y - 3) (if value < 0 then "-" else " ")
    let number : Command :=
      .drawFixedPoint (.unsigned showBackground false false font) color background digits fraction x y
        (Int64.ofInt value.toInt.natAbs)
    let inside : Prop :=
      (6 ≤ x.toInt ∧ x.toInt ≤ 65535) ∧ (3 ≤ y.toInt ∧ y.toInt ≤ 65535) ∧ value.toInt.natAbs ≤ 4294967295
    ((display.draw signed).1 = .ok () ↔ inside) ∧
    (inside → display.draw signed = display.drawAll [sign, number] ∧
      (display.draw sign).1 = .ok () ∧ ((display.draw sign).2.draw number).1 = .ok () ∧
      display.attempts signed = display.attempts sign ++ (display.draw sign).2.attempts number) ∧
    (¬inside → ∃ width refused, display.Refused signed width refused) ∧
    (value ≠ 0 → value ≠ Int64.minValue →
      (display.draw opposite).1 = (display.draw signed).1 ∧
      ((display.draw signed).1 = .ok () → ∃ header later,
        display.attempts signed = Tape.taken (header ++ [if value < 0 then 0x2D else 0x20]) :: later ∧
        display.attempts opposite = Tape.taken (header ++ [if value < 0 then 0x20 else 0x2D]) :: later)) := by
  intro signed opposite sign number inside
  have made_iff := Command.signed_made_iff display.settings.screen showBackground font color background digits
    fraction x y value
  refine ⟨?_, fun holds => ?_, fun outside => ?_, signed_opposite accepts _ _ _ _ _ _ _ _⟩
  · exact (draw_made_iff accepts).trans made_iff
  · obtain ⟨contents, made⟩ := made_iff.mpr holds
    obtain ⟨text, figures, rfl, signMade, numberMade⟩ := Command.signed_split _ _ _ _ _ _ _ _ _ _ made
    exact draw_composed accepts made signMade numberMade
  · cases made : signed.frames display.settings.screen with
    | ok contents => exact absurd (made_iff.mp ⟨contents, made⟩) outside
    | error fault =>
      obtain ⟨width, refused, rfl⟩ := Command.frames_error made
      exact ⟨width, refused, draw_refused made⟩

theorem signed_composed_or_refused :
    let display : Display Panel := ⟨.ofLine {} {}, {}⟩
    let signed (x : Int32) (value : Int64) : Command :=
      .drawSigned false .cell8x16 Color.white Color.black 3 1 x 20 value
    let writes (glyph : UInt8) : List Bytes :=
      [[0x11, 0x81, 0xFF, 0xFF, 0, 0, 0, 4, 0, 17, glyph], frameTail,
        [0x14, 0x01, 0xFF, 0xFF, 0, 0, 3, 1, 0, 10, 0, 20, 0, 0, 0, 5], frameTail]
    Line.Accepts display.link.line ∧
      display.attempts (signed 10 (-5)) = (writes 0x2D).map Tape.taken ∧
      display.attempts (signed 10 5) = (writes 0x20).map Tape.taken ∧
      (display.draw (.drawText false .cell8x16 Color.white Color.black 65534 17 "-")).1 = .ok () ∧
      (∃ width value, display.Refused (signed 65540 (-5)) width value) ∧
      ∃ width value, display.Refused (signed 10 Int64.minValue) width value := by
  intro display signed writes
  have accepts : Line.Accepts display.link.line := Panel.Open.accepts fun _ _ => rfl
  have compose := signed_composed accepts false .cell8x16 Color.white Color.black 3 1
  obtain ⟨made_iff, whole, _, pair⟩ := compose 10 20 (-5)
  obtain ⟨_, _, beyond, _⟩ := compose 65540 20 (-5)
  obtain ⟨_, _, unpaired, _⟩ := compose 10 20 Int64.minValue
  obtain ⟨_, _, _, attempts⟩ := whole (by decide)
  obtain ⟨_, opposed⟩ := pair (by decide) (by decide)
  have minus : display.attempts (signed 10 (-5)) = (writes 0x2D).map Tape.taken := attempts.trans rfl
  obtain ⟨header, later, one, other⟩ := opposed (made_iff.mpr (by decide))
  obtain ⟨first, rest⟩ := List.cons_eq_cons.mp (one.symm.trans minus)
  have front : header = [0x11, 0x81, 0xFF, 0xFF, 0, 0, 0, 4, 0, 17] :=
    List.append_cancel_right (congrArg Prod.fst first)
  rw [front, rest] at other
  exact ⟨accepts, minus, other, rfl, beyond (by decide), unpaired (by decide)⟩

end Display

end SerialPanel
