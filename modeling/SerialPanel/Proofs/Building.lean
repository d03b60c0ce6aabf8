import Mathlib.Algebra.Ring.Int.Defs
import Mathlib.Data.List.DropRight
import SerialPanel.Frame
import SerialPanel.Proofs.Reading
namespace SerialPanel

namespace FieldWidth

theorem max_power (width : FieldWidth) : (width.max : Int) = 2 ^ (8 * width.size) - 1 := by
  cases width with
  | byte => rfl
  | word => rfl
  | long => rfl
  | double => rfl

theorem size_le (width : FieldWidth) : width.size ≤ 8 := by
  cases width <;> decide

end FieldWidth

theorem bigEndian_drop (size more n : Nat) : (bigEndian (more + size) n).drop more = bigEndian size n := by
  induction size generalizing n with
  | zero => exact List.drop_eq_nil_of_le (Nat.le_of_eq (bigEndian_length more n))
  | succ size ih =>
    have inside : more ≤ (bigEndian (more + size) (n / 256)).length := by
      rw [bigEndian_length]
      exact Nat.le_add_right more size
    rw [← Nat.add_assoc, bigEndian, List.drop_append_of_le_length inside, ih]
    rfl

namespace Field

instance : DecidablePred Fits := fun field =>
  match field with
  | .unsigned width value => inferInstanceAs (Decidable (0 ≤ value ∧ value ≤ width.max))
  | .signed width value => inferInstanceAs (Decidable (-(width.half : Int) ≤ value ∧ value < width.half))
  | .text _ => inferInstanceAs (Decidable True)

theorem unsigned_fits_iff (width : FieldWidth) (value : Int) :
    (unsigned width value).Fits ↔ 0 ≤ value ∧ value ≤ 2 ^ (8 * width.size) - 1 := by
  rw [← width.max_power]
  rfl

-- What has to be known of a field to find it on the wire. Text is measured in bytes.
inductive Shape where
  | unsigned (width : FieldWidth)
  | signed (width : FieldWidth)
  | text (length : Nat)
  deriving DecidableEq, Repr

def shape : Field → Shape
  | .unsigned width _ => .unsigned width
  | .signed width _ => .signed width
  | .text words => .text (utf8 words).length

def Shape.read : Shape → Bytes → Option (Field × Bytes)
  | .unsigned width, bytes =>
    (readField width bytes).map fun (value, rest) => (.unsigned width value, rest)
  | .signed width, bytes =>
    (readField width bytes).map fun (value, rest) => (.signed width (readSigned width value), rest)
  | .text length, bytes =>
    if length ≤ bytes.length then
      (Instruction.Decode.words (bytes.take length)).map fun words => (.text words, bytes.drop length)
    else none

def readAll : List Shape → Bytes → Option (List Field × Bytes)
  | [], bytes => some ([], bytes)
  | shape :: later, bytes => do
    let (field, bytes) ← shape.read bytes
    let (fields, bytes) ← readAll later bytes
    return (field :: fields, bytes)

theorem shape_read {field : Field} (fits : field.Fits) (rest : Bytes) :
    field.shape.read (field.bytes ++ rest) = some (field, rest) := by
  cases field with
  | unsigned width value =>
    obtain ⟨low, high⟩ := fits
    have read := readField_bigEndian width value.toNat (Int.toNat_le.mpr high) rest
    simp only [shape, Shape.read, bytes, read, Option.map_some, Int.toNat_of_nonneg low]
  | signed width value =>
    have read := readField_bigEndian width _ (wrapped_le_max fits) rest
    simp only [shape, Shape.read, bytes, read, Option.map_some, readSigned_wrapped width value fits]
  | text words =>
    have enough : (utf8 words).length ≤ (utf8 words ++ rest).length := by simp
    have read : Instruction.Decode.words (utf8 words) = some words := Instruction.Decode.words_read words
    simp only [shape, Shape.read, bytes, if_pos enough, List.take_left, List.drop_left, read, Option.map_some]

theorem readAll_bytes {fields : List Field} (fit : ∀ field ∈ fields, field.Fits) (rest : Bytes) :
    readAll (fields.map shape) (fields.flatMap bytes ++ rest) = some (fields, rest) := by
  induction fields with
  | nil => rfl
  | cons field later ih =>
    obtain ⟨first, others⟩ := List.forall_mem_cons.mp fit
    rw [List.map_cons, List.flatMap_cons, List.append_assoc, readAll, shape_read first]
    simp only [Option.bind_eq_bind, Option.bind_some, ih others, Option.pure_def]

end Field

namespace Frame

def Step.field? : Step → Option Field
  | .put field => if field.Fits then some field else none
  | .clear => none

def taken (steps : List Step) : List Field := (steps.rtakeWhile (· ≠ .clear)).filterMap Step.field?

theorem field?_fits {field : Field} (fits : field.Fits) : (Step.put field).field? = some field := if_pos fits

theorem field?_unfit {field : Field} (unfit : ¬field.Fits) : (Step.put field).field? = none := if_neg unfit

theorem taken_put (steps : List Step) (field : Field) :
    taken (steps ++ [.put field]) = taken steps ++ (Step.put field).field?.toList := by
  rw [taken, List.rtakeWhile_concat_pos _ _ _ (by simp), List.filterMap_append]
  by_cases fits : field.Fits
  · simp [field?_fits fits, taken]
  · simp [field?_unfit fits, taken]

theorem taken_clear (steps : List Step) : taken (steps ++ [.clear]) = [] := by
  rw [taken, List.rtakeWhile_concat_neg _ _ _ (by simp)]
  rfl

theorem taken_fits {steps : List Step} : ∀ field ∈ taken steps, field.Fits := by
  intro field inside
  obtain ⟨action, _, made⟩ := List.mem_filterMap.mp inside
  cases action with
  | put own =>
    by_cases fits : own.Fits
    · rw [field?_fits fits] at made
      cases made
      exact fits
    · rw [field?_unfit fits] at made
      cases made
  | clear => cases made

theorem run_snoc (frame : Frame) (steps : List Step) (action : Step) :
    frame.run (steps ++ [action]) = (frame.run steps).advance action := by
  rw [run_append]
  rfl

theorem perform_error {frame : Frame} {action : Step} {fault : Fault}
    (failed : (frame.perform action).1 = .error fault) : (frame.perform action).2 = frame := by
  cases action with
  | put field =>
    cases made : field.encode with
    | error other => exact congrArg Prod.snd (write_error frame field other made)
    | ok bytes =>
      have taken := congrArg Prod.fst (write_ok frame field bytes made)
      cases taken.symm.trans failed
  | clear => cases failed

theorem advance_put (frame : Frame) (field : Field) :
    (frame.advance (.put field)).content = frame.content ++ (Step.put field).field?.toList.flatMap Field.bytes := by
  by_cases fits : field.Fits
  · have written := write_ok frame field _ (Field.encode_fits fits)
    simp [field?_fits fits, advance, perform, written]
  · obtain ⟨width, value, refused⟩ := Field.encode_overflow fits
    have left : frame.advance (.put field) = frame := congrArg Prod.snd (write_error frame field _ refused)
    rw [left, field?_unfit fits]
    exact (List.append_nil _).symm

theorem run_content (steps : List Step) : (empty.run steps).content = (taken steps).flatMap Field.bytes := by
  induction steps using List.reverseRecOn with
  | nil => rfl
  | append_singleton steps action ih =>
    rw [run_snoc]
    cases action with
    | put field => rw [advance_put, ih, taken_put, List.flatMap_append]
    | clear =>
      rw [taken_clear]
      rfl

theorem step_ok_iff (frame : Frame) (field : Field) : frame.step (.put field) = .ok () ↔ field.Fits := by
  by_cases fits : field.Fits
  · exact iff_of_true (congrArg Prod.fst (write_ok frame field _ (Field.encode_fits fits))) fits
  · obtain ⟨width, value, refused⟩ := Field.encode_overflow fits
    simp [step, perform, write_error frame field _ refused, fits]

theorem step_error_iff (frame : Frame) (width : FieldWidth) (value : Int) (fault : Fault) :
    frame.step (.put (.unsigned width value)) = .error fault ↔
      ¬(Field.unsigned width value).Fits ∧ fault = .fieldOverflow width value := by
  by_cases fits : (Field.unsigned width value).Fits
  · simp [step, perform, write_ok frame _ _ (Field.encode_fits fits), fits]
  · have refused : (Field.unsigned width value).encode = .error (.fieldOverflow width value) := if_neg fits
    simp [step, perform, write_error frame _ _ refused, fits, eq_comm]

theorem run_read (steps : List Step) :
    Field.readAll ((taken steps).map Field.shape) (empty.run steps).content = some (taken steps, []) := by
  have fit : ∀ field ∈ taken steps, field.Fits := taken_fits
  have read := Field.readAll_bytes fit []
  rwa [List.append_nil, ← run_content] at read

theorem puts_exact (frame : Frame) (fields : List Field) :
    fields.foldlM put frame = (encodeFields fields).map fun bytes => ⟨frame.content ++ bytes⟩ := by
  induction fields generalizing frame with
  | nil => simp [encodeFields, bind, Except.bind, pure, Except.pure, Except.map]
  | cons field later ih =>
    rw [List.foldlM_cons, encodeFields, List.mapM_cons]
    cases made : field.encode with
    | error fault => simp [put, write_error frame field fault made, bind, Except.bind, Except.map]
    | ok bytes =>
      have first : frame.put field = .ok ⟨frame.content ++ bytes⟩ := by rw [put, write_ok frame field bytes made]
      rw [first]
      change later.foldlM put _ = _
      rw [ih, encodeFields]
      cases later.mapM Field.encode with
      | error fault => rfl
      | ok blocks => simp [bind, Except.bind, pure, Except.pure, Except.map]

-- What a number is answered with.
structure Checked (frame : Frame) (width : FieldWidth) (value : Int) : Prop where
  taken : frame.step (.put (.unsigned width value)) = .ok () ↔ 0 ≤ value ∧ value ≤ 2 ^ (8 * width.size) - 1
  refused : ∀ fault, frame.step (.put (.unsigned width value)) = .error fault ↔
    ¬(0 ≤ value ∧ value ≤ 2 ^ (8 * width.size) - 1) ∧ fault = .fieldOverflow width value

theorem checked (frame : Frame) (width : FieldWidth) (value : Int) : Checked frame width value := by
  constructor
  · rw [← Field.unsigned_fits_iff]
    exact step_ok_iff frame _
  · rw [← Field.unsigned_fits_iff]
    exact step_error_iff frame width value

-- The bytes of a number that was taken.
structure Spelled (width : FieldWidth) (value : Int) (block : Bytes) : Prop where
  size : block.length = width.size
  spells : (fromBigEndian block : Int) = value
  low : block = (bigEndian 8 value.toNat).drop (8 - width.size)

theorem spelled {width : FieldWidth} {value : Int} (fits : (Field.unsigned width value).Fits) :
    Spelled width value (Field.unsigned width value).bytes := by
  obtain ⟨low, high⟩ := fits
  constructor
  · exact bigEndian_length _ _
  · have bound : value.toNat < Nat.pow 256 width.size := by
      rw [← width.max_succ]
      exact Nat.lt_succ_of_le (Int.toNat_le.mpr high)
    change (fromBigEndian (bigEndian _ _) : Int) = value
    rw [fromBigEndian_bigEndian _ _ bound]
    exact Int.toNat_of_nonneg low
  · have dropped := bigEndian_drop width.size (8 - width.size) value.toNat
    rw [Nat.sub_add_cancel width.size_le] at dropped
    exact dropped.symm

structure Built (steps : List Step) : Prop where
  content : (empty.run steps).content = (taken steps).flatMap Field.bytes
  numbers : ∀ (width : FieldWidth) (value : Int), .unsigned width value ∈ taken steps →
    Spelled width value (Field.unsigned width value).bytes
  read : Field.readAll ((taken steps).map Field.shape) (empty.run steps).content = some (taken steps, [])

theorem built (steps : List Step) : Built steps where
  content := run_content steps
  numbers _ _ inside := spelled (taken_fits _ inside)
  read := run_read steps

-- Any course of steps, failed ones included. What a frame holds is what was taken since
-- it was cleared, and whoever knows the shapes of the fields reads them back, so that no
-- other fields of these shapes have the same content.
theorem built_read_back (steps other : List Step) :
    (∀ (frame : Frame) (width : FieldWidth) (value : Int), Checked frame width value) ∧
    (∀ (frame : Frame) (words : String), frame.step (.put (.text words)) = .ok ()) ∧
    (∀ (frame : Frame) (action : Step) fault, (frame.perform action).1 = .error fault →
      (frame.perform action).2 = frame) ∧
    Built steps ∧
    ((taken steps).map Field.shape = (taken other).map Field.shape ∧
        (empty.run steps).content = (empty.run other).content ↔
      taken steps = taken other) := by
  refine ⟨checked, ?_, ?_, built steps, ?_, ?_⟩
  · intro frame words
    exact congrArg Prod.fst (write_ok frame (.text words) _ rfl)
  · intro frame action fault failed
    exact perform_error failed
  · rintro ⟨shapes, contents⟩
    have own := run_read steps
    rw [shapes, contents, run_read other] at own
    exact (congrArg Prod.fst (Option.some.inj own)).symm
  · intro same
    rw [run_content, run_content, same]
    exact ⟨rfl, rfl⟩

example : (empty.run [.put (.unsigned .byte 5), .clear, .put (.unsigned .word 258), .put (.unsigned .byte 256),
    .put (.text "OK")]).content = [0x01, 0x02, 0x4F, 0x4B] := by decide

end Frame

end SerialPanel
