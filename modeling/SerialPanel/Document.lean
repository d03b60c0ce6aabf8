import SerialPanel.Coded
namespace SerialPanel

class Document (δ : Type) where
  whole? : δ → Option Int
  flag? : δ → Option Bool
  name? : δ → Option String
  isNull : δ → Bool
  -- The members in written order. Names that the structure does not have are
  -- allowed, and so is the same name twice.
  members? : List String → δ → Option (List (String × δ))

namespace Document

variable {δ : Type} [Document δ]

def below? (limit : Nat) (document : δ) : Option Nat := do
  let n ← whole? document
  if 0 ≤ n ∧ n < limit then return n.toNat else none

def byte? (document : δ) : Option UInt8 := (below? 0x100 document).map UInt8.ofNat
def word? (document : δ) : Option UInt16 := (below? 0x10000 document).map UInt16.ofNat
def long? (document : δ) : Option UInt32 := (below? 0x100000000 document).map UInt32.ofNat
def double? (document : δ) : Option UInt64 := (below? 0x10000000000000000 document).map UInt64.ofNat

def choice? [Named α] (document : δ) : Option α := name? document >>= Named.ofName?

def optional? (read? : δ → Option α) (document : δ) : Option (Option α) :=
  if isNull document then some none else (read? document).map some

def member? (members : List (String × δ)) (name : String) (read? : δ → Option α)
    (fallback : Option α) : Option α :=
  match members.filter (·.1 == name) with
  | [] => fallback
  | [(_, content)] => read? content
  | _ => none

end Document

end SerialPanel
