import SerialPanel.Coded
namespace SerialPanel

inductive Font where
  | cell6x12 | cell8x16 | cell10x20 | cell12x24 | cell14x28
  | cell16x32 | cell20x40 | cell24x48 | cell28x56 | cell32x64
  deriving DecidableEq, Repr

namespace Font

def all : List Font :=
  [.cell6x12, .cell8x16, .cell10x20, .cell12x24, .cell14x28,
   .cell16x32, .cell20x40, .cell24x48, .cell28x56, .cell32x64]

def code : Font → UInt8
  | .cell6x12 => 0
  | .cell8x16 => 1
  | .cell10x20 => 2
  | .cell12x24 => 3
  | .cell14x28 => 4
  | .cell16x32 => 5
  | .cell20x40 => 6
  | .cell24x48 => 7
  | .cell28x56 => 8
  | .cell32x64 => 9

def width : Font → Nat
  | .cell6x12 => 6
  | .cell8x16 => 8
  | .cell10x20 => 10
  | .cell12x24 => 12
  | .cell14x28 => 14
  | .cell16x32 => 16
  | .cell20x40 => 20
  | .cell24x48 => 24
  | .cell28x56 => 28
  | .cell32x64 => 32

def height (font : Font) : Nat := 2 * font.width

def name (font : Font) : String :=
  "Font" ++ toString font.width ++ "x" ++ toString font.height

instance : Coded Font where
  all := all
  name := name
  code := code
  subject := "font size"

def menu : Font := .cell8x16
def status : Font := .cell10x20
def heading : Font := .cell10x20

theorem ofCode?_code (font : Font) : Coded.ofCode? font.code = some font := by
  cases font <;> rfl

end Font

end SerialPanel
