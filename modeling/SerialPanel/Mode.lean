import SerialPanel.Font
import SerialPanel.Parameter
namespace SerialPanel

def flagBit (mask : UInt8) (isSet : Bool) : UInt8 := if isSet then mask else 0

-- Mode byte of text. Bit 7 adjusts the width, bit 6 shows the background,
-- bits 5 and 4 are unused, bits 3 to 0 are the font. The background bit is one
-- lower than in NumberMode.
structure TextMode where
  widthAdjust : Bool
  showBackground : Bool
  font : Font
  deriving DecidableEq, Repr

namespace TextMode

def adjusted (showBackground : Bool) (font : Font) : TextMode := ⟨true, showBackground, font⟩

def toByte (mode : TextMode) : UInt8 :=
  mode.font.code ||| flagBit 0x80 mode.widthAdjust ||| flagBit 0x40 mode.showBackground

def ofByte? (byte : UInt8) : Option TextMode := do
  let font ← Coded.ofCode? (byte &&& 0x3F)
  return ⟨byte &&& 0x80 != 0, byte &&& 0x40 != 0, font⟩

theorem ofByte?_toByte (mode : TextMode) : ofByte? mode.toByte = some mode := by
  rcases mode with ⟨widthAdjust, showBackground, font⟩
  cases widthAdjust <;> cases showBackground <;> cases font <;> rfl

end TextMode

-- Mode byte of numbers. Bit 7 shows the background, bit 6 marks the value as
-- two's complement, bit 5 pads to the digit count, bit 4 pads with zeros instead
-- of spaces, bits 3 to 0 are the font.
structure NumberMode where
  showBackground : Bool
  signed : Bool
  zeroFill : Bool
  zeroMode : Bool
  font : Font
  deriving DecidableEq, Repr

namespace NumberMode

def unsigned (showBackground zeroFill zeroMode : Bool) (font : Font) : NumberMode :=
  ⟨showBackground, false, zeroFill, zeroMode, font⟩

def toByte (mode : NumberMode) : UInt8 :=
  mode.font.code ||| flagBit 0x80 mode.showBackground ||| flagBit 0x40 mode.signed |||
    flagBit 0x20 mode.zeroFill ||| flagBit 0x10 mode.zeroMode

def ofByte? (byte : UInt8) : Option NumberMode := do
  let font ← Coded.ofCode? (byte &&& 0x0F)
  return ⟨byte &&& 0x80 != 0, byte &&& 0x40 != 0, byte &&& 0x20 != 0, byte &&& 0x10 != 0, font⟩

theorem ofByte?_toByte (mode : NumberMode) : ofByte? mode.toByte = some mode := by
  rcases mode with ⟨showBackground, signed, zeroFill, zeroMode, font⟩
  cases showBackground <;> cases signed <;> cases zeroFill <;> cases zeroMode <;> cases font <;> rfl

end NumberMode

structure MoveMode where
  slides : Bool
  direction : Direction
  deriving DecidableEq, Repr

namespace MoveMode

def sliding (direction : Direction) : MoveMode := ⟨true, direction⟩

def toByte (mode : MoveMode) : UInt8 := mode.direction.code ||| flagBit 0x80 mode.slides

def ofByte? (byte : UInt8) : Option MoveMode := do
  let direction ← Coded.ofCode? (byte &&& 0x7F)
  return ⟨byte &&& 0x80 != 0, direction⟩

theorem ofByte?_toByte (mode : MoveMode) : ofByte? mode.toByte = some mode := by
  rcases mode with ⟨slides, direction⟩
  cases slides <;> cases direction <;> rfl

end MoveMode

end SerialPanel
