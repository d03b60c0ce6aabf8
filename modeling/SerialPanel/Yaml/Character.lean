namespace SerialPanel.Yaml

def isBreak (c : Char) : Bool :=
  c == '\n' || c == '\r' || c == '\x85' || c == '\u2028' || c == '\u2029'

def isBlank (c : Char) : Bool := c == ' ' || c == '\t'

def isAllowed (c : Char) : Bool :=
  let n := c.toNat
  n == 0x09 || n == 0x0A || n == 0x0D || n == 0x85 || (0x20 ≤ n && n ≤ 0x7E) ||
    (0xA0 ≤ n && n ≤ 0xFFFD) || 0x10000 ≤ n

def atBoundary : List Char → Bool
  | [] => true
  | c :: _ => isBlank c || isBreak c

def startsWith (mark : String) (text : List Char) : Bool := mark.toList.isPrefixOf text

def atDocumentMark (text : List Char) : Bool :=
  (startsWith "---" text || startsWith "..." text) && atBoundary (text.drop 3)

structure Place where
  offset : Nat := 0
  line : Nat := 0
  column : Nat := 0
  deriving DecidableEq, Repr

def Place.after (place : Place) : List Char → Place
  | [] => place
  | '\r' :: '\n' :: rest => Place.after ⟨place.offset + 2, place.line + 1, 0⟩ rest
  | c :: rest =>
    if isBreak c then Place.after ⟨place.offset + c.utf8Size, place.line + 1, 0⟩ rest
    else Place.after ⟨place.offset + c.utf8Size, place.line, place.column + 1⟩ rest

end SerialPanel.Yaml
