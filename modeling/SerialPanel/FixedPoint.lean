namespace SerialPanel

-- base ^ exponent times the factor, by repeated squaring. Products are rounded
-- one by one, so the order of multiplications is part of the value.
def floatPower (base factor : Float) (exponent : Nat) : Float :=
  let factor := if exponent % 2 = 1 then factor * base else factor
  if exponent / 2 = 0 then factor else floatPower (base * base) factor (exponent / 2)
termination_by exponent

def fixedPoint (value : Float) (digits : UInt8) : Int64 :=
  (value * floatPower 10 1 digits.toNat).round.toInt64

end SerialPanel
