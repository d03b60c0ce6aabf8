import SerialPanel.Coded
namespace SerialPanel

inductive RectangleMode where
  | outline | filled | xorFill
  deriving DecidableEq, Repr

namespace RectangleMode

def code : RectangleMode → UInt8
  | .outline => 0
  | .filled => 1
  | .xorFill => 2

def name : RectangleMode → String
  | .outline => "Outline"
  | .filled => "Filled"
  | .xorFill => "XorFill"

instance : Coded RectangleMode where
  all := [.outline, .filled, .xorFill]
  name := name
  code := code
  subject := "rectangle mode"

theorem ofCode?_code (mode : RectangleMode) : Coded.ofCode? mode.code = some mode := by
  cases mode <;> rfl

end RectangleMode

inductive Direction where
  | left | right | up | down
  deriving DecidableEq, Repr

namespace Direction

def code : Direction → UInt8
  | .left => 0
  | .right => 1
  | .up => 2
  | .down => 3

def name : Direction → String
  | .left => "Left"
  | .right => "Right"
  | .up => "Up"
  | .down => "Down"

instance : Coded Direction where
  all := [.left, .right, .up, .down]
  name := name
  code := code
  subject := "scroll direction"

theorem ofCode?_code (direction : Direction) : Coded.ofCode? direction.code = some direction := by
  cases direction <;> rfl

end Direction

inductive Rotation where
  | deg0 | deg90 | deg180 | deg270
  deriving DecidableEq, Repr

instance : Inhabited Rotation := ⟨.deg90⟩

namespace Rotation

def code : Rotation → UInt8
  | .deg0 => 0
  | .deg90 => 1
  | .deg180 => 2
  | .deg270 => 3

def name : Rotation → String
  | .deg0 => "Deg0"
  | .deg90 => "Deg90"
  | .deg180 => "Deg180"
  | .deg270 => "Deg270"

instance : Coded Rotation where
  all := [.deg0, .deg90, .deg180, .deg270]
  name := name
  code := code
  subject := "rotation"

theorem ofCode?_code (rotation : Rotation) : Coded.ofCode? rotation.code = some rotation := by
  cases rotation <;> rfl

end Rotation

end SerialPanel
