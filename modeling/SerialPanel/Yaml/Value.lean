import SerialPanel.Document
import SerialPanel.Yaml.Node
namespace SerialPanel.Yaml

def digitValue? (radix : Nat) (c : Char) : Option Nat := do
  let digit ← hexDigit? c
  if digit < radix then return digit else none

def digits? (radix : Nat) (text : List Char) : Option Nat :=
  if text.isEmpty then none
  else text.foldlM (fun n c => (digitValue? radix c).map (n * radix + ·)) 0

def whole? (text : List Char) : Option Nat :=
  let unsigned := if text.head? == some '+' then text.drop 1 else text
  if startsWith "0x" unsigned then digits? 16 (unsigned.drop 2)
  else if startsWith "0o" unsigned then digits? 8 (unsigned.drop 2)
  else if startsWith "0b" unsigned then digits? 2 (unsigned.drop 2)
  else if 1 < unsigned.length && unsigned.head? == some '0' then none
  else digits? 10 unsigned

def isNullWord (text : String) : Bool := ["", "~", "null", "Null", "NULL"].contains text

def flag? : String → Option Bool
  | "true" | "True" | "TRUE" => some true
  | "false" | "False" | "FALSE" => some false
  | _ => none

namespace Node

def named (members : List (Node × Node)) : Option (List (String × Node)) :=
  members.mapM fun (name, content) =>
    match name with
    | .scalar _ text => some (text, content)
    | _ => none

-- Only plain scalars stand for numbers, flags or nothing. A structure is a
-- mapping, and left blank it is one without members; a sequence is none.
instance : Document Node where
  whole?
    | .scalar true text => (whole? text.toList).map Int.ofNat
    | _ => none
  flag?
    | .scalar true text => flag? text
    | _ => none
  name?
    | .scalar _ text => some text
    | _ => none
  isNull
    | .scalar true text => isNullWord text
    | _ => false
  members? _
    | .mapping members => named members
    | .scalar true "" => some []
    | _ => none

end Node

end SerialPanel.Yaml
