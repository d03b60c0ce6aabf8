import SerialPanel.Yaml.Character
namespace SerialPanel.Yaml

-- White space inside of a scalar: blanks that stay as they are, or line breaks
-- that fold. The separators of Unicode are kept where other breaks become
-- line feeds.
structure Gap where
  blanks : List Char := []
  breaks : List Char := []
  folded : Bool := false
  column : Nat := 0

def Gap.text (gap : Gap) : List Char :=
  if gap.folded then
    match gap.breaks with
    | ['\n'] => [' ']
    | '\n' :: later => later
    | breaks => breaks
  else gap.blanks

def foldBreak (c : Char) : Char := if c == '\u2028' || c == '\u2029' then c else '\n'

def takeGap (margin : Nat) (gap : Gap) : List Char → Option (Gap × List Char)
  | '\r' :: '\n' :: rest =>
    takeGap margin { gap with breaks := gap.breaks ++ ['\n'], folded := true, column := 0 } rest
  | [] => some (gap, [])
  | c :: rest =>
    if isBreak c then
      takeGap margin { gap with breaks := gap.breaks ++ [foldBreak c], folded := true, column := 0 } rest
    else if isBlank c then
      if !gap.folded then takeGap margin { gap with blanks := gap.blanks ++ [c] } rest
      else if c == '\t' && gap.column < margin then none
      else takeGap margin { gap with column := gap.column + 1 } rest
    else some (gap, c :: rest)

-- A run of characters of a plain scalar. In flow context the brackets and the
-- comma end it, and a colon may not touch them.
def plainWord (inFlow : Bool) : List Char → Option (List Char × List Char)
  | [] => some ([], [])
  | c :: rest =>
    if isBlank c || isBreak c then some ([], c :: rest)
    else if inFlow && c == ':' && (rest.head?.map fun d => ",?[]{}".toList.contains d).getD false then none
    else if c == ':' && atBoundary rest then some ([], c :: rest)
    else if inFlow && ",[]{}".toList.contains c then some ([], c :: rest)
    else (plainWord inFlow rest).map fun (word, rest) => (c :: word, rest)

def plainWords (inFlow : Bool) (margin : Nat) :
    Nat → List Char → List Char → Bool → List Char → Option (List Char × Bool × List Char)
  | 0, text, _, broken, rest => some (text, broken, rest)
  | fuel + 1, text, gap, broken, rest =>
    if rest.head? == some '#' && !gap.isEmpty then some (text, broken, rest)
    else do
      let (word, rest) ← plainWord inFlow rest
      if word.isEmpty then return (text, broken, rest)
      let text := text ++ gap ++ word
      if rest.isEmpty || !atBoundary rest then return (text, false, rest)
      let (gap, rest) ← takeGap margin {} rest
      if gap.folded && ((!inFlow && gap.column < margin) || (gap.column == 0 && atDocumentMark rest)) then
        return (text, true, rest)
      plainWords inFlow margin fuel text gap.text gap.folded rest

def plainScalar (inFlow : Bool) (margin : Nat) (text : List Char) :
    Option (List Char × Bool × List Char) :=
  plainWords inFlow margin (text.length + 1) [] [] false text

def hexDigit? (c : Char) : Option Nat :=
  if '0' ≤ c && c ≤ '9' then some (c.toNat - 48)
  else if 'a' ≤ c && c ≤ 'f' then some (c.toNat - 87)
  else if 'A' ≤ c && c ≤ 'F' then some (c.toNat - 55)
  else none

def hexValue? (digits : List Char) : Option Nat :=
  digits.foldlM (fun n c => (hexDigit? c).map (n * 16 + ·)) 0

def hexEscape (digits : Nat) (text : List Char) : Option (Char × List Char) := do
  if text.length < digits then none
  let n ← hexValue? (text.take digits)
  if valid : n.isValidChar then return (Char.ofNatAux n valid, text.drop digits)
  else none

def escape : List Char → Option (Char × List Char)
  | [] => none
  | c :: rest =>
    match c with
    | '0' => some ('\x00', rest)
    | 'a' => some ('\x07', rest)
    | 'b' => some ('\x08', rest)
    | 't' | '\t' => some ('\t', rest)
    | 'n' => some ('\n', rest)
    | 'v' => some ('\x0B', rest)
    | 'f' => some ('\x0C', rest)
    | 'r' => some ('\r', rest)
    | 'e' => some ('\x1B', rest)
    | ' ' => some (' ', rest)
    | '"' => some ('"', rest)
    | '/' => some ('/', rest)
    | '\\' => some ('\\', rest)
    | 'N' => some ('\x85', rest)
    | '_' => some ('\xA0', rest)
    | 'L' => some ('\u2028', rest)
    | 'P' => some ('\u2029', rest)
    | 'x' => hexEscape 2 rest
    | 'u' => hexEscape 4 rest
    | 'U' => hexEscape 8 rest
    | _ => none

inductive QuotedEnd where
  | closed
  | gap
  | escapedBreak

def dropBreak : List Char → List Char
  | '\r' :: '\n' :: rest => rest
  | _ :: rest => rest
  | [] => []

def quotedWord (double : Bool) : Nat → List Char → Option (List Char × QuotedEnd × List Char)
  | 0, _ => none
  | _, [] => some ([], .gap, [])
  | fuel + 1, c :: rest =>
    if isBlank c || isBreak c then some ([], .gap, c :: rest)
    else if double && c == '\\' then
      match rest with
      | [] => none
      | d :: _ =>
        if isBreak d then some ([], .escapedBreak, dropBreak rest)
        else do
          let (escaped, rest) ← escape rest
          let (word, ending, rest) ← quotedWord double fuel rest
          return (escaped :: word, ending, rest)
    else if !double && startsWith "\x27\x27" (c :: rest) then do
      let (word, ending, rest) ← quotedWord double fuel (rest.drop 1)
      return ('\'' :: word, ending, rest)
    else if c == (if double then '"' else '\'') then some ([], .closed, rest)
    else do
      let (word, ending, rest) ← quotedWord double fuel rest
      return (c :: word, ending, rest)

def quotedWords (double : Bool) : Nat → List Char → List Char → Option (List Char × List Char)
  | 0, _, _ => none
  | fuel + 1, text, rest => do
    if rest.isEmpty then none
    let (word, ending, rest) ← quotedWord double (rest.length + 1) rest
    let text := text ++ word
    match ending with
    | .closed => return (text, rest)
    | .gap =>
      let (gap, rest) ← takeGap 0 {} rest
      if gap.folded && gap.column == 0 && atDocumentMark rest then none
      quotedWords double fuel (text ++ gap.text) rest
    | .escapedBreak =>
      let (gap, rest) ← takeGap 0 { folded := true } rest
      if gap.column == 0 && atDocumentMark rest then none
      quotedWords double fuel (text ++ gap.breaks) rest

def quotedScalar (double : Bool) (text : List Char) : Option (List Char × List Char) :=
  quotedWords double (text.length + 1) [] text

end SerialPanel.Yaml
