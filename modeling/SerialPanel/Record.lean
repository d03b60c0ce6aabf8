import SerialPanel.Document
namespace SerialPanel

inductive Record where
  | null
  | flag (value : Bool)
  | whole (value : Int)
  | fraction
  | text (value : String)
  | list (items : List Record)
  | table (members : List (String × Record))
  deriving Inhabited, Repr

namespace Record

-- A name is its text, or a table of the name alone with nothing in it. A structure
-- is a table, or a list of its members in their own order; a list may stop early
-- but not go on past the last member.
instance : Document Record where
  whole?
    | .whole value => some value
    | _ => none
  flag?
    | .flag value => some value
    | _ => none
  name?
    | .text value => some value
    | .table [(name, .null)] => some name
    | _ => none
  isNull
    | .null => true
    | _ => false
  members? names
    | .table members => some members
    | .list items => if items.length ≤ names.length then some (names.zip items) else none
    | _ => none

end Record

end SerialPanel
