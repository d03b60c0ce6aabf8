import SerialPanel.Bytes
namespace SerialPanel

structure Color where
  value : UInt16
  deriving DecidableEq, Repr

instance : Inhabited Color := ⟨⟨0⟩⟩

namespace Color

def black : Color := ⟨0x0000⟩
def white : Color := ⟨0xFFFF⟩
def yellow : Color := ⟨0xFF0F⟩
def windowBackground : Color := ⟨0x31E8⟩
def blueBackground : Color := ⟨0x1125⟩
def blackBackground : Color := ⟨0x0841⟩
def redBackground : Color := ⟨0xF00F⟩
def popupText : Color := ⟨0xD6BA⟩
def splitLine : Color := ⟨0x3A6A⟩
def cursor : Color := ⟨0xEE2F⟩
def percent : Color := ⟨0xFE29⟩
def barFill : Color := ⟨0x10E4⟩
def selection : Color := ⟨0x33BB⟩

def toInt (color : Color) : Int := color.value.toNat

end Color

end SerialPanel
