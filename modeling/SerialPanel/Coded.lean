import SerialPanel.Fault
namespace SerialPanel

class Named (α : Type) where
  all : List α
  name : α → String

class Coded (α : Type) extends Named α where
  code : α → UInt8
  subject : String

def Named.ofName? [Named α] (text : String) : Option α :=
  (Named.all (α := α)).find? fun value => Named.name value == text

def Coded.ofCode? [Coded α] (code : UInt8) : Option α :=
  (Named.all (α := α)).find? fun value => Coded.code value == code

def Coded.ofCode [Coded α] (code : UInt8) : Except Fault α :=
  match Coded.ofCode? code with
  | some value => .ok value
  | none => .error (.invalidParameter (Coded.subject α) code.toNat)

end SerialPanel
