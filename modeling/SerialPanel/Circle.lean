import SerialPanel.SquareRoot
namespace SerialPanel

def clampCoordinate (value : Int) : Int := max (-0x80000000) (min value 0x7FFFFFFF)

structure Dot where
  x : Int
  y : Int
  size : UInt8
  deriving DecidableEq, Repr

namespace Circle

-- Height of the arc above offset a. The topmost step is drawn one pixel lower,
-- so that the circle has no spike; at radius zero that puts it below the centre.
def height (radius a : Nat) : Int :=
  if a = 0 then (squareRoot (radius * radius) : Int) - 1
  else squareRoot (radius * radius - a * a)

def arcFrom (radius stride : Nat) : Nat → Nat → Int → List (Int × Int)
  | 0, _, _ => []
  | steps + 1, a, last =>
    if (a : Int) ≤ last then
      (a, height radius a) :: arcFrom radius stride steps (a + stride) (height radius a)
    else []

-- No height exceeds the radius, so radius + 1 steps are always enough.
def arc (radius stride : Nat) : List (Int × Int) := arcFrom radius stride (radius + 1) 0 0

def octants (a b : Int) : List (Int × Int) :=
  [(a, b), (b, a), (b, -a), (a, -b), (-a, -b), (-b, -a), (-b, a), (-a, b)]

def ring (radius stride : Nat) : List (Int × Int) :=
  (arc radius stride).flatMap fun (a, b) => octants a b

def place (x y : Int32) (size : UInt8) (offset : Int × Int) : Dot :=
  ⟨clampCoordinate (x.toInt + offset.1), clampCoordinate (y.toInt + offset.2), size⟩

def outline (x y : Int32) (radius : UInt16) : List Dot :=
  (ring radius.toNat 1).map (place x y 1)

def filled (x y : Int32) (radius : UInt16) : List Dot :=
  (List.range' 1 radius.toNat).reverse.flatMap fun r => (ring r 2).map (place x y 2)

end Circle

end SerialPanel
