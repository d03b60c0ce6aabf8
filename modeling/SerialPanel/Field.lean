import SerialPanel.Fault
namespace SerialPanel

-- One parameter of an instruction: a number in a field of fixed width, or text.
-- A signed number travels as two's complement within its width.
inductive Field where
  | unsigned (width : FieldWidth) (value : Int)
  | signed (width : FieldWidth) (value : Int)
  | text (words : String)
  deriving DecidableEq, Repr

def Field.encode : Field → Except Fault Bytes
  | .unsigned width value =>
    if 0 ≤ value ∧ value ≤ width.max then .ok (bigEndian width.size value.toNat)
    else .error (.fieldOverflow width value)
  | .signed width value =>
    if -(width.half : Int) ≤ value ∧ value < width.half then
      .ok (bigEndian width.size (value % (2 * width.half : Nat)).toNat)
    else .error (.fieldOverflow width value)
  | .text words => .ok (utf8 words)

def encodeFields (fields : List Field) : Except Fault Bytes :=
  return (← fields.mapM Field.encode).flatten

theorem encode_unsigned_error (width : FieldWidth) (value : Int) (out : value < 0 ∨ width.max < value) :
    (Field.unsigned width value).encode = .error (.fieldOverflow width value) := by
  rw [Field.encode, if_neg (by omega)]

end SerialPanel
