import SerialPanel.Instruction
namespace SerialPanel

def readField (width : FieldWidth) (bytes : Bytes) : Option (Nat × Bytes) :=
  if width.size ≤ bytes.length then
    some (fromBigEndian (bytes.take width.size), bytes.drop width.size)
  else none

def readSigned (width : FieldWidth) (value : Nat) : Int :=
  if value < width.half then value else (value : Int) - (2 * width.half : Nat)

namespace Instruction.Decode

def byte (bytes : Bytes) : Option (UInt8 × Bytes) :=
  match bytes with
  | [] => none
  | first :: rest => some (first, rest)

def word (bytes : Bytes) : Option (UInt16 × Bytes) :=
  (readField .word bytes).map fun (value, rest) => (UInt16.ofNat value, rest)

def color (bytes : Bytes) : Option (Color × Bytes) :=
  (word bytes).map fun (value, rest) => (⟨value⟩, rest)

def coordinate (bytes : Bytes) : Option (Int × Bytes) :=
  (readField .word bytes).map fun (value, rest) => ((value : Int), rest)

def finished (bytes : Bytes) : Option Unit := if bytes.isEmpty then some () else none

def value (mode : NumberMode) (width : FieldWidth) (bytes : Bytes) : Option Int := do
  let (value, rest) ← readField width bytes
  finished rest
  return if mode.signed then readSigned width value else value

def words (bytes : Bytes) : Option String := String.fromUTF8? ⟨bytes.toArray⟩

def palette (bytes : Bytes) : Option Instruction := do
  let (foreground, bytes) ← color bytes
  let (background, bytes) ← color bytes
  finished bytes
  return .palette foreground background

def clear (bytes : Bytes) : Option Instruction := do
  let (fill, bytes) ← color bytes
  finished bytes
  return .clear fill

def point (bytes : Bytes) : Option Instruction := do
  let (fill, bytes) ← color bytes
  let (width, bytes) ← byte bytes
  let (height, bytes) ← byte bytes
  let (x, bytes) ← coordinate bytes
  let (y, bytes) ← coordinate bytes
  finished bytes
  return .point fill width height x y

def line (bytes : Bytes) : Option Instruction := do
  let (stroke, bytes) ← color bytes
  let (x0, bytes) ← coordinate bytes
  let (y0, bytes) ← coordinate bytes
  let (x1, bytes) ← coordinate bytes
  let (y1, bytes) ← coordinate bytes
  finished bytes
  return .line stroke x0 y0 x1 y1

def rectangle (bytes : Bytes) : Option Instruction := do
  let (mode, bytes) ← byte bytes
  let mode ← Coded.ofCode? mode
  let (x0, bytes) ← coordinate bytes
  let (y0, bytes) ← coordinate bytes
  let (x1, bytes) ← coordinate bytes
  let (y1, bytes) ← coordinate bytes
  finished bytes
  return .rectangle mode x0 y0 x1 y1

def text (bytes : Bytes) : Option Instruction := do
  let (mode, bytes) ← byte bytes
  let mode ← TextMode.ofByte? mode
  let (ink, bytes) ← color bytes
  let (background, bytes) ← color bytes
  let (x, bytes) ← coordinate bytes
  let (y, bytes) ← coordinate bytes
  let words ← words bytes
  return .text mode ink background x y words

-- An integer has an eight-byte value and no fraction digits, a fixed-point
-- number a four-byte value: the length tells them apart.
def number (bytes : Bytes) : Option Instruction := do
  let (mode, bytes) ← byte bytes
  let mode ← NumberMode.ofByte? mode
  let (ink, bytes) ← color bytes
  let (background, bytes) ← color bytes
  let (digits, bytes) ← byte bytes
  let (fraction, bytes) ← byte bytes
  let (x, bytes) ← coordinate bytes
  let (y, bytes) ← coordinate bytes
  if bytes.length = FieldWidth.long.size then
    return .fixedPoint mode ink background digits fraction x y (← value mode .long bytes)
  else if fraction = 0 then
    return .integer mode ink background digits x y (← value mode .double bytes)
  else none

def icon (bytes : Bytes) : Option Instruction := do
  let (x, bytes) ← coordinate bytes
  let (y, bytes) ← coordinate bytes
  let (library, bytes) ← byte bytes
  let (picture, bytes) ← word bytes
  finished bytes
  return .icon library picture x y

def moveArea (bytes : Bytes) : Option Instruction := do
  let (mode, bytes) ← byte bytes
  let mode ← MoveMode.ofByte? mode
  let (offset, bytes) ← word bytes
  let (background, bytes) ← color bytes
  let (x0, bytes) ← coordinate bytes
  let (y0, bytes) ← coordinate bytes
  let (x1, bytes) ← coordinate bytes
  let (y1, bytes) ← coordinate bytes
  finished bytes
  return .moveArea mode offset background x0 y0 x1 y1

def orientation (bytes : Bytes) : Option Instruction :=
  match bytes with
  | [high, low, code] =>
    if [high, low] = Opcode.orientationKey then (Coded.ofCode? code).map .orientation else none
  | _ => none

end Instruction.Decode

def Instruction.decode (content : Bytes) : Option Instruction :=
  match content with
  | [] => none
  | opcode :: bytes =>
    if opcode = Opcode.handshake then (Decode.finished bytes).map fun _ => .handshake
    else if opcode = Opcode.palette then Decode.palette bytes
    else if opcode = Opcode.clear then Decode.clear bytes
    else if opcode = Opcode.line then Decode.point bytes <|> Decode.line bytes
    else if opcode = Opcode.rectangle then Decode.rectangle bytes
    else if opcode = Opcode.text then Decode.text bytes
    else if opcode = Opcode.number then Decode.number bytes
    else if opcode = Opcode.icon then Decode.icon bytes
    else if opcode = Opcode.moveArea then Decode.moveArea bytes
    else if opcode = Opcode.orientation then Decode.orientation bytes
    else match opcode, bytes with
      | 0x22, [0x00, id] => some (.image id)
      | 0x30, [level] => some (.backlight level)
      | 0x3D, [] => some .refresh
      | _, _ => none

end SerialPanel
