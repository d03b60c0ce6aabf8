import SerialPanel.Circle
import SerialPanel.Instruction
namespace SerialPanel

structure Screen where
  width : UInt16
  height : UInt16
  deriving DecidableEq, Repr

inductive Command where
  | setPalette (background foreground : Color)
  | clearScreen (color : Color)
  | drawPoint (color : Color) (width height : UInt8) (x y : Int32)
  | drawLine (color : Color) (x0 y0 x1 y1 : Int32)
  | drawRectangle (mode : RectangleMode) (color : Color) (x0 y0 x1 y1 : Int32)
  | drawCircle (color : Color) (x y : Int32) (radius : UInt16)
  | fillCircle (color : Color) (x y : Int32) (radius : UInt16)
  | drawText (showBackground : Bool) (font : Font) (color background : Color) (x y : Int32)
      (words : String)
  | drawInteger (mode : NumberMode) (color background : Color) (digits : UInt8) (x y : Int32)
      (value : Int64)
  -- The value is the real number times ten to the number of fraction digits.
  | drawFixedPoint (mode : NumberMode) (color background : Color) (digits fraction : UInt8)
      (x y : Int32) (value : Int64)
  | drawSigned (showBackground : Bool) (font : Font) (color background : Color)
      (digits fraction : UInt8) (x y : Int32) (value : Int64)
  -- The controller draws icons without a background whatever the flag says.
  | drawIcon (showBackground : Bool) (library : UInt8) (picture : UInt16) (x y : Int32)
  | cacheImage (id : UInt8)
  | drawImage (id : UInt8)
  | moveArea (direction : Direction) (offset : UInt16) (background : Color) (x0 y0 x1 y1 : Int32)
  | setBacklight (level : UInt8)
  | setOrientation (rotation : Rotation)
  | refresh
  deriving DecidableEq, Repr

namespace Command

def dots (color : Color) (points : List Dot) : List (Except Fault Instruction) :=
  points.map fun dot => .ok (.point color dot.size dot.size dot.x dot.y)

def signLeft : Int := 6
def signAbove : Int := 3

def magnitude (value : Int64) : Except Fault Int :=
  let size := value.toInt.natAbs
  if size < 0x8000000000000000 then .ok size else .error (.fieldOverflow .long size)

def onScreen (position : Int32) (extent : UInt16) : Int :=
  min position.toInt ((extent.toNat : Int) - 1)

def plan (screen : Screen) : Command → List (Except Fault Instruction)
  | .setPalette background foreground => [.ok (.palette foreground background)]
  | .clearScreen color => [.ok (.clear color)]
  | .drawPoint color width height x y => [.ok (.point color width height x.toInt y.toInt)]
  | .drawLine color x0 y0 x1 y1 => [.ok (.line color x0.toInt y0.toInt x1.toInt y1.toInt)]
  | .drawRectangle mode color x0 y0 x1 y1 =>
    [.ok (.palette color Color.white), .ok (.rectangle mode x0.toInt y0.toInt x1.toInt y1.toInt)]
  | .drawCircle color x y radius => dots color (Circle.outline x y radius)
  | .fillCircle color x y radius => dots color (Circle.filled x y radius)
  | .drawText showBackground font color background x y words =>
    [.ok (.text (.adjusted showBackground font) color background x.toInt y.toInt
      (String.ofList (words.toList.take maxTextLength)))]
  | .drawInteger mode color background digits x y value =>
    [.ok (.integer mode color background digits x.toInt y.toInt value.toInt)]
  | .drawFixedPoint mode color background digits fraction x y value =>
    [.ok (.fixedPoint mode color background digits fraction x.toInt y.toInt value.toInt)]
  | .drawSigned showBackground font color background digits fraction x y value =>
    [.ok (.text (.adjusted showBackground font) color background
        (clampCoordinate (x.toInt - signLeft)) (clampCoordinate (y.toInt - signAbove))
        (if value < 0 then "-" else " ")),
     (magnitude value).map fun size =>
       .fixedPoint (.unsigned showBackground false false font) color background digits fraction
         x.toInt y.toInt size]
  | .drawIcon _ library picture x y =>
    [.ok (.icon library picture (onScreen x screen.width) (onScreen y screen.height))]
  | .cacheImage id => [.ok (.image id)]
  | .drawImage id => [.ok (.image id)]
  | .moveArea direction offset background x0 y0 x1 y1 =>
    [.ok (.moveArea (.sliding direction) offset background
      x0.toInt y0.toInt x1.toInt y1.toInt)]
  | .setBacklight level => [.ok (.backlight (max level backlightFloor))]
  | .setOrientation rotation => [.ok (.orientation rotation)]
  | .refresh => [.ok .refresh]

def frames (screen : Screen) (command : Command) : Except Fault (List Bytes) :=
  (command.plan screen).mapM fun entry => entry >>= Instruction.encode

end Command

end SerialPanel
