import SerialPanel.Yaml.Scalar
namespace SerialPanel.Yaml

-- What the characters of a document come to before its structure is looked at.
-- Block collections are bracketed by indentation, flow collections by themselves.
-- Anchors, tags, directives and block scalars are outside of this subset.
inductive Token where
  | documentStart | documentEnd
  | blockSequence | blockMapping | blockEnd
  | flowSequence | flowSequenceEnd
  | flowMapping | flowMappingEnd
  | item | comma | key | value
  | scalar (plain : Bool) (text : String)
  deriving DecidableEq, Repr

structure PendingKey where
  number : Nat
  place : Place
  required : Bool

-- The state of the scan. Blocks are known by their columns, innermost first;
-- each open flow collection, and the block context below them, may have one
-- pending key.
structure Scan where
  rest : List Char
  place : Place := {}
  tokens : Array Token := #[]
  blocks : List Nat := []
  keys : List (Option PendingKey) := [none]
  keyAllowed : Bool := true

namespace Scan

def inFlow (scan : Scan) : Bool := 1 < scan.keys.length

def advanceTo (scan : Scan) (rest : List Char) : Scan :=
  { scan with
    rest
    place := scan.place.after (scan.rest.take (scan.rest.length - rest.length)) }

def emit (scan : Scan) (token : Token) : Scan := { scan with tokens := scan.tokens.push token }

def emitMark (scan : Scan) (token : Token) (length : Nat) : Scan :=
  (scan.emit token).advanceTo (scan.rest.drop length)

def insert (scan : Scan) (number : Nat) (token : Token) : Scan :=
  { scan with tokens := scan.tokens.insertIdxIfInBounds number token }

def isDeeper (scan : Scan) (column : Nat) : Bool :=
  match scan.blocks with
  | [] => true
  | inner :: _ => inner < column

def openBlock (scan : Scan) (column number : Nat) (token : Token) : Scan :=
  if scan.inFlow || !scan.isDeeper column then scan
  else { scan.insert number token with blocks := column :: scan.blocks }

def closeBlocks (scan : Scan) (column : Option Nat) : Scan :=
  if scan.inFlow then scan
  else
    let isOpen := fun (inner : Nat) => (column.map fun c => decide (c < inner)).getD true
    let closed := (scan.blocks.takeWhile isOpen).length
    { scan with
      blocks := scan.blocks.drop closed
      tokens := scan.tokens ++ Array.replicate closed .blockEnd }

def forgetKey (scan : Scan) : Option Scan :=
  match scan.keys with
  | some key :: outer => if key.required then none else some { scan with keys := none :: outer }
  | _ => some scan

def noteKey (scan : Scan) : Option Scan :=
  if scan.keyAllowed then do
    let cleared ← scan.forgetKey
    let required := !scan.inFlow && scan.blocks.head? == some scan.place.column
    return { cleared with keys := some ⟨scan.tokens.size, scan.place, required⟩ :: cleared.keys.drop 1 }
  else some scan

def isStale (place : Place) (key : PendingKey) : Bool :=
  key.place.line < place.line || key.place.offset + 1024 < place.offset

def dropStaleKeys (scan : Scan) : Option Scan := do
  let keys ← scan.keys.mapM fun pending =>
    match pending with
    | some key => if isStale scan.place key then (if key.required then none else some none) else some (some key)
    | none => some none
  return { scan with keys }

inductive LinePart where
  | start | middle | comment
  deriving DecidableEq, Repr

-- White space and comments between tokens. A break lets a key begin in block
-- context; tabs are white space only where no key can begin. Each line may start
-- with one byte order mark, which takes up a column.
def skipSpace (inFlow : Bool) : LinePart → Bool → List Char → Bool × List Char
  | _, allowed, [] => (allowed, [])
  | part, allowed, c :: rest =>
    if isBreak c then skipSpace inFlow .start (allowed || !inFlow) rest
    else if part = .comment then skipSpace inFlow .comment allowed rest
    else if part = .start && c == '\uFEFF' then skipSpace inFlow .middle allowed rest
    else if c == ' ' || (c == '\t' && (inFlow || !allowed)) then skipSpace inFlow .middle allowed rest
    else if c == '#' then skipSpace inFlow .comment allowed rest
    else (allowed, c :: rest)

def toNextToken (scan : Scan) : Scan :=
  let part : LinePart := if scan.place.column = 0 then .start else .middle
  let (keyAllowed, rest) := skipSpace scan.inFlow part scan.keyAllowed scan.rest
  { scan with keyAllowed }.advanceTo rest

def documentMark (scan : Scan) (token : Token) : Option Scan := do
  let scan ← (scan.closeBlocks none).forgetKey
  return ({ scan with keyAllowed := false }).emitMark token 3

def flowStart (scan : Scan) (token : Token) : Option Scan := do
  let scan ← scan.noteKey
  return ({ scan with keys := none :: scan.keys, keyAllowed := true }).emitMark token 1

def flowEnd (scan : Scan) (token : Token) : Option Scan := do
  let scan ← scan.forgetKey
  let keys := if scan.inFlow then scan.keys.drop 1 else scan.keys
  return ({ scan with keys, keyAllowed := false }).emitMark token 1

def comma (scan : Scan) : Option Scan := do
  let scan ← scan.forgetKey
  return ({ scan with keyAllowed := true }).emitMark .comma 1

def item (scan : Scan) : Option Scan := do
  if !scan.inFlow && !scan.keyAllowed then none
  let scan ← (scan.openBlock scan.place.column scan.tokens.size .blockSequence).forgetKey
  return ({ scan with keyAllowed := true }).emitMark .item 1

def explicitKey (scan : Scan) : Option Scan := do
  if !scan.inFlow && !scan.keyAllowed then none
  let scan ← (scan.openBlock scan.place.column scan.tokens.size .blockMapping).forgetKey
  return ({ scan with keyAllowed := !scan.inFlow }).emitMark .key 1

def value (scan : Scan) : Option Scan :=
  match scan.keys with
  | some key :: outer =>
    let scan := (scan.insert key.number .key).openBlock key.place.column key.number .blockMapping
    some (({ scan with keys := none :: outer, keyAllowed := false }).emitMark .value 1)
  | _ =>
    if !scan.inFlow && !scan.keyAllowed then none
    else
      let scan := scan.openBlock scan.place.column scan.tokens.size .blockMapping
      some (({ scan with keyAllowed := !scan.inFlow }).emitMark .value 1)

def quoted (scan : Scan) (double : Bool) : Option Scan := do
  let scan ← scan.noteKey
  let (text, rest) ← quotedScalar double (scan.rest.drop 1)
  return (({ scan with keyAllowed := false }).emit (.scalar false (String.ofList text))).advanceTo rest

def plain (scan : Scan) : Option Scan := do
  let scan ← scan.noteKey
  let margin := (scan.blocks.head?.map (· + 1)).getD 0
  let (text, broken, rest) ← plainScalar scan.inFlow margin scan.rest
  return (({ scan with keyAllowed := broken }).emit (.scalar true (String.ofList text))).advanceTo rest

def startsPlain (inFlow : Bool) : List Char → Bool
  | [] => false
  | c :: rest =>
    !(isBlank c || isBreak c || "-?:,[]{}#&*!|>\x27\"%@\x60".toList.contains c) ||
      (c == '-' && !(rest.head?.map isBlank).getD false) ||
      (!inFlow && (c == '?' || c == ':') && !atBoundary rest)

def next (scan : Scan) : Option Scan :=
  match scan.rest with
  | [] => none
  | c :: rest =>
    if scan.place.column == 0 && atDocumentMark scan.rest then
      scan.documentMark (if c == '-' then .documentStart else .documentEnd)
    else if scan.place.column == 0 && c == '%' then none
    else if c == '[' then scan.flowStart .flowSequence
    else if c == '{' then scan.flowStart .flowMapping
    else if c == ']' then scan.flowEnd .flowSequenceEnd
    else if c == '}' then scan.flowEnd .flowMappingEnd
    else if c == ',' then scan.comma
    else if c == '-' && atBoundary rest then scan.item
    else if c == '?' && (scan.inFlow || atBoundary rest) then scan.explicitKey
    else if c == ':' && (scan.inFlow || atBoundary rest) then scan.value
    else if c == '"' then scan.quoted true
    else if c == '\'' then scan.quoted false
    else if startsPlain scan.inFlow scan.rest then scan.plain
    else none

-- Tokens to the end of the document. Every token takes at least one character,
-- so the fuel is never the reason to stop.
def run : Nat → Scan → Option (List Token)
  | 0, _ => none
  | fuel + 1, scan => do
    let scan ← scan.toNextToken.dropStaleKeys
    let scan := scan.closeBlocks (some scan.place.column)
    if scan.rest.isEmpty then return (← (scan.closeBlocks none).forgetKey).tokens.toList
    run fuel (← scan.next)

end Scan

def Token.scan (text : String) : Option (List Token) :=
  let characters := text.toList
  if characters.all isAllowed then Scan.run (characters.length + 1) { rest := characters } else none

end SerialPanel.Yaml
