import SerialPanel.Command
import SerialPanel.Proofs.Reading
namespace SerialPanel

def OffWire (value : Int) : Prop := value < 0 ∨ 65535 < value

instance : DecidablePred OffWire := fun value => inferInstanceAs (Decidable (value < 0 ∨ 65535 < value))

-- Stopping at the ends of the 32-bit range moves nothing onto the wire and nothing off it.
theorem clampCoordinate_offWire (value : Int) : OffWire (clampCoordinate value) ↔ OffWire value := by
  unfold OffWire clampCoordinate
  omega

namespace Instruction

theorem coordinate_onWire {value : Int} (onWire : ¬OffWire value) : (coordinate value).Fits := by
  unfold OffWire at onWire
  rw [coordinate_fits]
  omega

theorem coordinate_offWire {value : Int} (offWire : OffWire value) :
    (coordinate value).encode = .error (.fieldOverflow .word value) :=
  encode_unsigned_error .word value offWire

theorem placed_encoded {front back : List Field} (x y : Int) (before : ∀ field ∈ front, field.Fits)
    (behind : ∀ field ∈ back, field.Fits) :
    encodeFields (front ++ coordinate x :: coordinate y :: back) =
      match [x, y].find? fun value => OffWire value with
      | some value => .error (.fieldOverflow .word value)
      | none => .ok ((front ++ coordinate x :: coordinate y :: back).flatMap Field.bytes) := by
  by_cases across : OffWire x
  · have found : [x, y].find? (fun value => OffWire value) = some x := by simp [across]
    rw [found]
    exact encodeFields_refused before (coordinate_offWire across)
  · have left := coordinate_onWire across
    by_cases along : OffWire y
    · have found : [x, y].find? (fun value => OffWire value) = some y := by simp [across, along]
      have fit : ∀ field ∈ front ++ [coordinate x], field.Fits :=
        List.forall_mem_append.mpr ⟨before, List.forall_mem_singleton.mpr left⟩
      rw [found, List.append_cons]
      exact encodeFields_refused fit (coordinate_offWire along)
    · have found : [x, y].find? (fun value => OffWire value) = none := by simp [across, along]
      rw [found]
      apply encodeFields_ok_iff.mpr
      refine ⟨List.forall_mem_append.mpr ⟨before, ?_⟩, rfl⟩
      exact List.forall_mem_cons.mpr ⟨left, List.forall_mem_cons.mpr ⟨coordinate_onWire along, behind⟩⟩

def textHeader (mode : TextMode) (color background : Color) (x y : Int) : Bytes :=
  [0x11, mode.toByte] ++ bigEndian 2 color.value.toNat ++ bigEndian 2 background.value.toNat ++
    bigEndian 2 x.toNat ++ bigEndian 2 y.toNat

theorem text_encoded (mode : TextMode) (color background : Color) (x y : Int) (words : String) :
    (text mode color background x y words).encode =
      match [x, y].find? fun value => OffWire value with
      | some value => .error (.fieldOverflow .word value)
      | none => .ok (textHeader mode color background x y ++ utf8 words) := by
  have front : ∀ field ∈ [byteField Opcode.text, byteField mode.toByte, colorField color, colorField background],
      field.Fits := by simp
  have back : ∀ field ∈ [Field.text words], field.Fits := by simp
  have bytes : (text mode color background x y words).fields.flatMap Field.bytes =
      textHeader mode color background x y ++ utf8 words := by
    simp only [fields, List.flatMap_cons, List.flatMap_nil, byteField_bytes, textHeader, List.append_assoc,
      List.append_nil]
    rfl
  rw [← bytes]
  exact placed_encoded x y front back

theorem textHeader_length (mode : TextMode) (color background : Color) (x y : Int) :
    (textHeader mode color background x y).length = 10 := by
  simp [textHeader]

end Instruction

theorem Command.text_frames (screen : Screen) (showBackground : Bool) (font : Font) (color background : Color)
    (x y : Int32) (words : String) :
    (drawText showBackground font color background x y words).frames screen =
      match [x.toInt, y.toInt].find? fun value => OffWire value with
      | some value => .error (.fieldOverflow .word value)
      | none => .ok [Instruction.textHeader (.adjusted showBackground font) color background x.toInt y.toInt ++
          utf8 (String.ofList (words.toList.take maxTextLength))] := by
  have encoded : (Except.ok (Instruction.text (.adjusted showBackground font) color background x.toInt y.toInt
      (String.ofList (words.toList.take maxTextLength))) >>= Instruction.encode) = _ := Instruction.text_encoded ..
  unfold frames
  rw [plan, List.mapM_cons, List.mapM_nil, encoded]
  cases [x.toInt, y.toInt].find? fun value => OffWire value with
  | some value => rfl
  | none => rfl

end SerialPanel
