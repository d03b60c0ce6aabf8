import SerialPanel.Color
import SerialPanel.Frame
import SerialPanel.Mode
import SerialPanel.Protocol
namespace SerialPanel

-- One instruction of the controller, as the panel understands it: what is left
-- of a drawing command once clamps, truncation and decomposition are done.
-- Coordinates and values are unbounded here; only encode says which ones exist
-- on the wire.
inductive Instruction where
  | handshake
  | palette (foreground background : Color)
  | clear (color : Color)
  | point (color : Color) (width height : UInt8) (x y : Int)
  | line (color : Color) (x0 y0 x1 y1 : Int)
  | rectangle (mode : RectangleMode) (x0 y0 x1 y1 : Int)
  | text (mode : TextMode) (color background : Color) (x y : Int) (words : String)
  | integer (mode : NumberMode) (color background : Color) (digits : UInt8) (x y value : Int)
  | fixedPoint (mode : NumberMode) (color background : Color) (digits fraction : UInt8) (x y value : Int)
  | icon (library : UInt8) (picture : UInt16) (x y : Int)
  | image (id : UInt8)
  | moveArea (mode : MoveMode) (offset : UInt16) (background : Color) (x0 y0 x1 y1 : Int)
  | backlight (level : UInt8)
  | orientation (rotation : Rotation)
  | refresh
  deriving DecidableEq, Repr

namespace Instruction

def byteField (byte : UInt8) : Field := .unsigned .byte byte.toNat
def wordField (word : UInt16) : Field := .unsigned .word word.toNat
def colorField (color : Color) : Field := wordField color.value
def coordinate (value : Int) : Field := .unsigned .word value

def valueField (mode : NumberMode) (width : FieldWidth) (value : Int) : Field :=
  if mode.signed then .signed width value else .unsigned width value

def fields : Instruction → List Field
  | .handshake => [byteField Opcode.handshake]
  | .palette foreground background =>
    [byteField Opcode.palette, colorField foreground, colorField background]
  | .clear color => [byteField Opcode.clear, colorField color]
  | .point color width height x y =>
    [byteField Opcode.line, colorField color, byteField width, byteField height,
     coordinate x, coordinate y]
  | .line color x0 y0 x1 y1 =>
    [byteField Opcode.line, colorField color, coordinate x0, coordinate y0, coordinate x1, coordinate y1]
  | .rectangle mode x0 y0 x1 y1 =>
    [byteField Opcode.rectangle, byteField mode.code,
     coordinate x0, coordinate y0, coordinate x1, coordinate y1]
  | .text mode color background x y words =>
    [byteField Opcode.text, byteField mode.toByte, colorField color, colorField background,
     coordinate x, coordinate y, .text words]
  | .integer mode color background digits x y value =>
    [byteField Opcode.number, byteField mode.toByte, colorField color, colorField background,
     byteField digits, byteField 0, coordinate x, coordinate y, valueField mode .double value]
  | .fixedPoint mode color background digits fraction x y value =>
    [byteField Opcode.number, byteField mode.toByte, colorField color, colorField background,
     byteField digits, byteField fraction, coordinate x, coordinate y, valueField mode .long value]
  | .icon library picture x y =>
    [byteField Opcode.icon, coordinate x, coordinate y, byteField library, wordField picture]
  | .image id => [wordField Opcode.image, byteField id]
  | .moveArea mode offset background x0 y0 x1 y1 =>
    [byteField Opcode.moveArea, byteField mode.toByte, wordField offset, colorField background,
     coordinate x0, coordinate y0, coordinate x1, coordinate y1]
  | .backlight level => [byteField Opcode.backlight, byteField level]
  | .orientation rotation =>
    byteField Opcode.orientation :: Opcode.orientationKey.map byteField ++ [byteField rotation.code]
  | .refresh => [byteField Opcode.refresh]

def encode (instruction : Instruction) : Except Fault Bytes := encodeFields instruction.fields

end Instruction

end SerialPanel
