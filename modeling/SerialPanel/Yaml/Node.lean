import SerialPanel.Yaml.Token
namespace SerialPanel.Yaml

inductive Node where
  | scalar (plain : Bool) (text : String)
  | sequence (items : List Node)
  | mapping (members : List (Node × Node))
  deriving Inhabited, Repr

namespace Node

def blank : Node := .scalar true ""

-- Fuel bounds nesting and entries together. No more than two calls in a row take
-- no token, so three per token are enough.
mutual
def read : Nat → Bool → Bool → List Token → Option (Node × List Token)
  | 0, _, _, _ => none
  | fuel + 1, block, compact, tokens =>
    match tokens with
    | .scalar plain text :: rest => some (.scalar plain text, rest)
    | .flowSequence :: rest => do
      let (items, rest) ← readFlowItems fuel true rest
      return (.sequence items, rest)
    | .flowMapping :: rest => do
      let (members, rest) ← readFlowMembers fuel true rest
      return (.mapping members, rest)
    | .blockSequence :: rest => do
      if !block then none
      let (items, rest) ← readItems fuel rest
      return (.sequence items, rest)
    | .blockMapping :: rest => do
      if !block then none
      let (members, rest) ← readMembers fuel rest
      return (.mapping members, rest)
    | .item :: _ => do
      if !compact then none
      let (items, rest) ← readCompactItems fuel tokens
      return (.sequence items, rest)
    | _ => none

def readItems : Nat → List Token → Option (List Node × List Token)
  | 0, _ => none
  | fuel + 1, tokens =>
    match tokens with
    | .item :: rest => do
      let (first, rest) ← match rest with
        | .item :: _ | .blockEnd :: _ => some (blank, rest)
        | _ => read fuel true false rest
      let (later, rest) ← readItems fuel rest
      return (first :: later, rest)
    | .blockEnd :: rest => some ([], rest)
    | _ => none

def readCompactItems : Nat → List Token → Option (List Node × List Token)
  | 0, _ => none
  | fuel + 1, tokens =>
    match tokens with
    | .item :: rest => do
      let (first, rest) ← match rest with
        | .item :: _ | .key :: _ | .value :: _ | .blockEnd :: _ => some (blank, rest)
        | _ => read fuel true false rest
      let (later, rest) ← readCompactItems fuel rest
      return (first :: later, rest)
    | _ => some ([], tokens)

def readPart : Nat → List Token → Option (Node × List Token)
  | 0, _ => none
  | fuel + 1, tokens =>
    match tokens with
    | .key :: _ | .value :: _ | .blockEnd :: _ => some (blank, tokens)
    | _ => read fuel true true tokens

def readMembers : Nat → List Token → Option (List (Node × Node) × List Token)
  | 0, _ => none
  | fuel + 1, tokens =>
    match tokens with
    | .key :: rest => do
      let (name, rest) ← readPart fuel rest
      let (content, rest) ← match rest with
        | .value :: rest => readPart fuel rest
        | _ => some (blank, rest)
      let (later, rest) ← readMembers fuel rest
      return ((name, content) :: later, rest)
    | .blockEnd :: rest => some ([], rest)
    | _ => none

-- Entries of a flow sequence up to its bracket. A comma may follow the last. An
-- entry with a key is a mapping of one member; an explicit key that is left out
-- takes the token behind it along.
def readFlowItems : Nat → Bool → List Token → Option (List Node × List Token)
  | 0, _, _ => none
  | fuel + 1, first, tokens =>
    match first, tokens with
    | _, .flowSequenceEnd :: rest => some ([], rest)
    | false, .comma :: .flowSequenceEnd :: rest => some ([], rest)
    | false, .comma :: rest => readFlowItem fuel rest
    | true, _ => readFlowItem fuel tokens
    | _, _ => none

def readFlowItem : Nat → List Token → Option (List Node × List Token)
  | 0, _ => none
  | fuel + 1, tokens =>
    match tokens with
    | .key :: rest => do
      let (name, rest) ← match rest with
        | .value :: rest | .comma :: rest | .flowSequenceEnd :: rest => some (blank, rest)
        | _ => read fuel false false rest
      let (content, rest) ← match rest with
        | .value :: .comma :: _ | .value :: .flowSequenceEnd :: _ => some (blank, rest.drop 1)
        | .value :: rest => read fuel false false rest
        | _ => some (blank, rest)
      let (later, rest) ← readFlowItems fuel false rest
      return (.mapping [(name, content)] :: later, rest)
    | _ => do
      let (item, rest) ← read fuel false false tokens
      let (later, rest) ← readFlowItems fuel false rest
      return (item :: later, rest)

def readFlowMembers : Nat → Bool → List Token → Option (List (Node × Node) × List Token)
  | 0, _, _ => none
  | fuel + 1, first, tokens =>
    match first, tokens with
    | _, .flowMappingEnd :: rest => some ([], rest)
    | false, .comma :: .flowMappingEnd :: rest => some ([], rest)
    | false, .comma :: rest => readFlowMember fuel rest
    | true, _ => readFlowMember fuel tokens
    | _, _ => none

def readFlowMember : Nat → List Token → Option (List (Node × Node) × List Token)
  | 0, _ => none
  | fuel + 1, tokens =>
    match tokens with
    | .key :: rest => do
      let (name, rest) ← match rest with
        | .value :: _ | .comma :: _ | .flowMappingEnd :: _ => some (blank, rest)
        | _ => read fuel false false rest
      let (content, rest) ← match rest with
        | .value :: .comma :: _ | .value :: .flowMappingEnd :: _ => some (blank, rest.drop 1)
        | .value :: rest => read fuel false false rest
        | _ => some (blank, rest)
      let (later, rest) ← readFlowMembers fuel false rest
      return ((name, content) :: later, rest)
    | _ => do
      let (name, rest) ← read fuel false false tokens
      let (later, rest) ← readFlowMembers fuel false rest
      return ((name, blank) :: later, rest)
end

def ofTokens (tokens : List Token) : Option (Option Node) := do
  let fuel := 3 * tokens.length + 3
  let (node, rest) ← match tokens with
    | [] => some (none, [])
    | .documentStart :: rest =>
      match rest with
      | [] | .documentStart :: _ | .documentEnd :: _ => some (some blank, rest)
      | _ => (read fuel true false rest).map fun (node, rest) => (some node, rest)
    | _ => (read fuel true false tokens).map fun (node, rest) => (some node, rest)
  if rest.all (· == .documentEnd) then return node
  none

def parse (text : String) : Option (Option Node) := do ofTokens (← Token.scan text)

end Node

end SerialPanel.Yaml
