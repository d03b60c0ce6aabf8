import SerialPanel.Proofs.Encoding
import SerialPanel.Instruction.Decode
namespace SerialPanel

theorem readField_bigEndian (width : FieldWidth) (value : Nat) (fits : value ≤ width.max) (rest : Bytes) :
    readField width (bigEndian width.size value ++ rest) = some (value, rest) := by
  have bound : value < Nat.pow 256 width.size := by
    rw [← width.max_succ]
    omega
  have enough : width.size ≤ (bigEndian width.size value ++ rest).length := by simp
  unfold readField
  rw [if_pos enough, List.take_left' (bigEndian_length ..), List.drop_left' (bigEndian_length ..),
    fromBigEndian_bigEndian _ _ bound]

theorem readSigned_wrapped (width : FieldWidth) (value : Int)
    (carried : -(width.half : Int) ≤ value ∧ value < width.half) :
    readSigned width (value % (2 * width.half : Nat)).toNat = value := by
  unfold readSigned
  by_cases low : 0 ≤ value
  · have same : value % (2 * width.half : Nat) = value := Int.emod_eq_of_lt low (by omega)
    rw [same, if_pos (by omega)]
    omega
  · have wrapped : value % (2 * width.half : Nat) = value + (2 * width.half : Nat) := by
      rw [← Int.add_emod_right]
      exact Int.emod_eq_of_lt (by omega) (by omega)
    rw [wrapped, if_neg (by omega)]
    omega

theorem wrapped_le_max {width : FieldWidth} {value : Int}
    (carried : -(width.half : Int) ≤ value ∧ value < width.half) :
    (value % (2 * width.half : Nat)).toNat ≤ width.max := by
  cases width <;> simp only [FieldWidth.half, FieldWidth.max] at carried ⊢ <;> omega

theorem utf8_toByteArray (text : String) : (⟨(utf8 text).toArray⟩ : ByteArray) = text.toByteArray := by
  rw [← String.utf8Encode_toList]
  apply ByteArray.ext
  exact List.data_toByteArray.symm

namespace Instruction

@[simp] theorem byteField_bytes (byte : UInt8) : (byteField byte).bytes = [byte] := by
  simp [byteField, Field.bytes, FieldWidth.size, bigEndian]

namespace Decode

theorem words_read (text : String) : words (Field.text text).bytes = some text := by
  have same : (⟨(Field.text text).bytes.toArray⟩ : ByteArray) = text.toByteArray := utf8_toByteArray text
  unfold words
  rw [same]
  simp only [String.fromUTF8?, dif_pos text.isValidUTF8]
  rfl

theorem word_read (value : UInt16) (rest : Bytes) :
    word ((wordField value).bytes ++ rest) = some (value, rest) := by
  have bounded := value.toNat_lt
  have fits : value.toNat ≤ FieldWidth.word.max := Nat.le_of_lt_succ bounded
  have read := readField_bigEndian .word value.toNat fits rest
  have same : (wordField value).bytes = bigEndian FieldWidth.word.size value.toNat := rfl
  unfold word
  rw [same, read]
  simp

theorem color_read (ink : Color) (rest : Bytes) :
    color ((colorField ink).bytes ++ rest) = some (ink, rest) := by
  unfold color colorField
  rw [word_read]
  rfl

theorem coordinate_read {value : Int} (fits : (Instruction.coordinate value).Fits) (rest : Bytes) :
    coordinate ((Instruction.coordinate value).bytes ++ rest) = some (value, rest) := by
  obtain ⟨low, high⟩ := fits
  have small : value.toNat ≤ FieldWidth.word.max := Int.toNat_le.mpr high
  have read := readField_bigEndian .word value.toNat small rest
  have same : (Instruction.coordinate value).bytes = bigEndian FieldWidth.word.size value.toNat := rfl
  unfold coordinate
  rw [same, read]
  simp [Int.toNat_of_nonneg low]

theorem value_read {mode : NumberMode} {width : FieldWidth} {number : Int}
    (fits : (valueField mode width number).Fits) :
    value mode width (valueField mode width number).bytes = some number := by
  rw [valueField_fits] at fits
  unfold Carries at fits
  unfold value valueField
  cases signed : mode.signed with
  | true =>
    simp only [signed, if_true] at fits
    have read := readField_bigEndian width _ (wrapped_le_max fits) []
    rw [List.append_nil] at read
    simp only [if_true, Field.bytes, read, Option.bind_eq_bind, Option.bind_some, finished,
      List.isEmpty_nil, readSigned_wrapped width number fits, Option.pure_def]
  | false =>
    simp only [signed, Bool.false_eq_true, if_false] at fits
    have small : number.toNat ≤ width.max := by omega
    have read := readField_bigEndian width _ small []
    rw [List.append_nil] at read
    simp only [Bool.false_eq_true, if_false, Field.bytes, read, Option.bind_eq_bind, Option.bind_some,
      finished, List.isEmpty_nil, if_true, Option.pure_def, Int.toNat_of_nonneg fits.1]

theorem byte_read (first : UInt8) (rest : Bytes) : byte (first :: rest) = some (first, rest) := rfl

end Decode

theorem coordinate_bytes (value : Int) : ∃ high low, (coordinate value).bytes = [high, low] :=
  ⟨UInt8.ofNat (value.toNat / 256), UInt8.ofNat value.toNat, rfl⟩

-- A line is two bytes longer than a point under the same opcode.
theorem point_of_line (stroke : Color) {x0 y0 x1 y1 : Int} (up : (coordinate y0).Fits)
    (right : (coordinate x1).Fits) :
    Decode.point ((colorField stroke).bytes ++ ((coordinate x0).bytes ++ ((coordinate y0).bytes ++
      ((coordinate x1).bytes ++ ((coordinate y1).bytes ++ []))))) = none := by
  obtain ⟨high, low, first⟩ := coordinate_bytes x0
  obtain ⟨upper, lower, last⟩ := coordinate_bytes y1
  rw [first, last]
  simp only [List.cons_append, List.nil_append, Decode.point, Decode.color_read, Decode.byte_read,
    Decode.coordinate_read up, Decode.coordinate_read right, Option.bind_eq_bind, Option.bind_some]
  rfl

theorem value_length (mode : NumberMode) (width : FieldWidth) (value : Int) :
    (valueField mode width value).bytes.length = width.size := by
  unfold valueField
  split <;> exact bigEndian_length ..

theorem decode_palette (foreground background : Color) :
    decode ((palette foreground background).fields.flatMap Field.bytes) = some (palette foreground background) := by
  simp only [fields, List.flatMap_cons, List.flatMap_nil, byteField_bytes, List.singleton_append]
  change Decode.palette _ = _
  simp only [Decode.palette, Decode.color_read, Option.bind_eq_bind, Option.bind_some]
  rfl

theorem decode_clear (color : Color) :
    decode ((clear color).fields.flatMap Field.bytes) = some (clear color) := by
  simp only [fields, List.flatMap_cons, List.flatMap_nil, byteField_bytes, List.singleton_append]
  change Decode.clear _ = _
  simp only [Decode.clear, Decode.color_read, Option.bind_eq_bind, Option.bind_some]
  rfl

theorem decode_point {color : Color} {width height : UInt8} {x y : Int}
    (fit : ∀ field ∈ (point color width height x y).fields, field.Fits) :
    decode ((point color width height x y).fields.flatMap Field.bytes) = some (point color width height x y) := by
  have across := fit (coordinate x) (by simp [fields])
  have down := fit (coordinate y) (by simp [fields])
  simp only [fields, List.flatMap_cons, List.flatMap_nil, byteField_bytes, List.singleton_append]
  change (Decode.point _ <|> _) = _
  simp only [Decode.point, Decode.color_read, Decode.byte_read, Decode.coordinate_read across,
    Decode.coordinate_read down, Option.bind_eq_bind, Option.bind_some]
  rfl

theorem decode_line {color : Color} {x0 y0 x1 y1 : Int}
    (fit : ∀ field ∈ (line color x0 y0 x1 y1).fields, field.Fits) :
    decode ((line color x0 y0 x1 y1).fields.flatMap Field.bytes) = some (line color x0 y0 x1 y1) := by
  have left := fit (coordinate x0) (by simp [fields])
  have up := fit (coordinate y0) (by simp [fields])
  have right := fit (coordinate x1) (by simp [fields])
  have down := fit (coordinate y1) (by simp [fields])
  simp only [fields, List.flatMap_cons, List.flatMap_nil, byteField_bytes, List.singleton_append]
  change (Decode.point _ <|> Decode.line _) = _
  rw [point_of_line color up right]
  simp only [Decode.line, Decode.color_read, Decode.coordinate_read left, Decode.coordinate_read up,
    Decode.coordinate_read right, Decode.coordinate_read down, Option.bind_eq_bind, Option.bind_some]
  rfl

theorem decode_rectangle {mode : RectangleMode} {x0 y0 x1 y1 : Int}
    (fit : ∀ field ∈ (rectangle mode x0 y0 x1 y1).fields, field.Fits) :
    decode ((rectangle mode x0 y0 x1 y1).fields.flatMap Field.bytes) = some (rectangle mode x0 y0 x1 y1) := by
  have left := fit (coordinate x0) (by simp [fields])
  have up := fit (coordinate y0) (by simp [fields])
  have right := fit (coordinate x1) (by simp [fields])
  have down := fit (coordinate y1) (by simp [fields])
  simp only [fields, List.flatMap_cons, List.flatMap_nil, byteField_bytes, List.singleton_append]
  change Decode.rectangle _ = _
  simp only [Decode.rectangle, Decode.byte_read, mode.ofCode?_code, Decode.coordinate_read left,
    Decode.coordinate_read up, Decode.coordinate_read right, Decode.coordinate_read down,
    Option.bind_eq_bind, Option.bind_some]
  rfl

theorem decode_text {mode : TextMode} {color background : Color} {x y : Int} {words : String}
    (fit : ∀ field ∈ (text mode color background x y words).fields, field.Fits) :
    decode ((text mode color background x y words).fields.flatMap Field.bytes) = some (text mode color background x y words) := by
  have across := fit (coordinate x) (by simp [fields])
  have down := fit (coordinate y) (by simp [fields])
  simp only [fields, List.flatMap_cons, List.flatMap_nil, byteField_bytes, List.singleton_append]
  change Decode.text _ = _
  simp only [Decode.text, Decode.byte_read, mode.ofByte?_toByte, Decode.color_read,
    Decode.coordinate_read across, Decode.coordinate_read down, List.append_nil, Decode.words_read,
    Option.bind_eq_bind, Option.bind_some]
  rfl

theorem decode_integer {mode : NumberMode} {color background : Color} {digits : UInt8} {x y value : Int}
    (fit : ∀ field ∈ (integer mode color background digits x y value).fields, field.Fits) :
    decode ((integer mode color background digits x y value).fields.flatMap Field.bytes) = some (integer mode color background digits x y value) := by
  have across := fit (coordinate x) (by simp [fields])
  have down := fit (coordinate y) (by simp [fields])
  have carried := fit (valueField mode .double value) (by simp [fields])
  have long : ¬(valueField mode .double value).bytes.length = FieldWidth.long.size := by
    rw [value_length]
    decide
  simp only [fields, List.flatMap_cons, List.flatMap_nil, byteField_bytes, List.singleton_append]
  change Decode.number _ = _
  simp only [Decode.number, Decode.byte_read, mode.ofByte?_toByte, Decode.color_read,
    Decode.coordinate_read across, Decode.coordinate_read down, List.append_nil, if_neg long,
    Decode.value_read carried, Option.bind_eq_bind, Option.bind_some]
  rfl

theorem decode_fixedPoint {mode : NumberMode} {color background : Color} {digits fraction : UInt8} {x y value : Int}
    (fit : ∀ field ∈ (fixedPoint mode color background digits fraction x y value).fields, field.Fits) :
    decode ((fixedPoint mode color background digits fraction x y value).fields.flatMap Field.bytes) = some (fixedPoint mode color background digits fraction x y value) := by
  have across := fit (coordinate x) (by simp [fields])
  have down := fit (coordinate y) (by simp [fields])
  have carried := fit (valueField mode .long value) (by simp [fields])
  simp only [fields, List.flatMap_cons, List.flatMap_nil, byteField_bytes, List.singleton_append]
  change Decode.number _ = _
  simp only [Decode.number, Decode.byte_read, mode.ofByte?_toByte, Decode.color_read,
    Decode.coordinate_read across, Decode.coordinate_read down, List.append_nil, value_length,
    if_true, Decode.value_read carried, Option.bind_eq_bind, Option.bind_some]
  rfl

theorem decode_icon {library : UInt8} {picture : UInt16} {x y : Int}
    (fit : ∀ field ∈ (icon library picture x y).fields, field.Fits) :
    decode ((icon library picture x y).fields.flatMap Field.bytes) = some (icon library picture x y) := by
  have across := fit (coordinate x) (by simp [fields])
  have down := fit (coordinate y) (by simp [fields])
  simp only [fields, List.flatMap_cons, List.flatMap_nil, byteField_bytes, List.singleton_append]
  change Decode.icon _ = _
  simp only [Decode.icon, Decode.coordinate_read across, Decode.coordinate_read down,
    Decode.byte_read, Decode.word_read, Option.bind_eq_bind, Option.bind_some]
  rfl

theorem decode_moveArea {mode : MoveMode} {offset : UInt16} {background : Color} {x0 y0 x1 y1 : Int}
    (fit : ∀ field ∈ (moveArea mode offset background x0 y0 x1 y1).fields, field.Fits) :
    decode ((moveArea mode offset background x0 y0 x1 y1).fields.flatMap Field.bytes) = some (moveArea mode offset background x0 y0 x1 y1) := by
  have left := fit (coordinate x0) (by simp [fields])
  have up := fit (coordinate y0) (by simp [fields])
  have right := fit (coordinate x1) (by simp [fields])
  have down := fit (coordinate y1) (by simp [fields])
  simp only [fields, List.flatMap_cons, List.flatMap_nil, byteField_bytes, List.singleton_append]
  change Decode.moveArea _ = _
  simp only [Decode.moveArea, Decode.byte_read, mode.ofByte?_toByte, Decode.word_read,
    Decode.color_read, Decode.coordinate_read left, Decode.coordinate_read up,
    Decode.coordinate_read right, Decode.coordinate_read down, Option.bind_eq_bind, Option.bind_some]
  rfl

theorem decode_fields (instruction : Instruction) (fit : ∀ field ∈ instruction.fields, field.Fits) :
    decode (instruction.fields.flatMap Field.bytes) = some instruction := by
  cases instruction with
  | handshake => rfl
  | palette foreground background => exact decode_palette foreground background
  | clear color => exact decode_clear color
  | point => exact decode_point fit
  | line => exact decode_line fit
  | rectangle => exact decode_rectangle fit
  | text => exact decode_text fit
  | integer => exact decode_integer fit
  | fixedPoint => exact decode_fixedPoint fit
  | icon => exact decode_icon fit
  | image id =>
    simp only [fields, List.flatMap_cons, List.flatMap_nil, byteField_bytes]
    rfl
  | moveArea => exact decode_moveArea fit
  | backlight level =>
    simp only [fields, List.flatMap_cons, List.flatMap_nil, byteField_bytes]
    rfl
  | orientation rotation => cases rotation <;> rfl
  | refresh => rfl

theorem decode_encode {instruction : Instruction} {content : Bytes}
    (made : instruction.encode = .ok content) : decode content = some instruction := by
  obtain ⟨fit, rfl⟩ := encode_ok_iff.mp made
  exact decode_fields instruction fit

end Instruction

end SerialPanel
