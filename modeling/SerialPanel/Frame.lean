import SerialPanel.Field
namespace SerialPanel

-- The content of one instruction under construction. Neither the optional head
-- byte nor the tail is part of it; the link adds both.
structure Frame where
  content : Bytes
  deriving DecidableEq, Repr

namespace Frame

def empty : Frame := ⟨[]⟩

def isEmpty (frame : Frame) : Bool := frame.content.isEmpty

-- A field is checked as a whole before any of it is written.
def write (frame : Frame) (field : Field) : Except Fault Unit × Frame :=
  match field.encode with
  | .error fault => (.error fault, frame)
  | .ok bytes => (.ok (), ⟨frame.content ++ bytes⟩)

-- What a chain of fields goes on with: the frame itself, up to the first refusal.
def put (frame : Frame) (field : Field) : Except Fault Frame :=
  match frame.write field with
  | (.error fault, _) => .error fault
  | (.ok _, frame) => .ok frame

inductive Step where
  | put (field : Field)
  | clear
  deriving DecidableEq, Repr

def perform (frame : Frame) : Step → Except Fault Unit × Frame
  | .put field => frame.write field
  | .clear => (.ok (), empty)

def step (frame : Frame) (action : Step) : Except Fault Unit := (frame.perform action).1

def advance (frame : Frame) (action : Step) : Frame := (frame.perform action).2

def run (frame : Frame) (actions : List Step) : Frame := actions.foldl advance frame

theorem run_append (frame : Frame) (first second : List Step) :
    frame.run (first ++ second) = (frame.run first).run second := by
  simp [run]

theorem write_ok (frame : Frame) (field : Field) (bytes : Bytes) (fits : field.encode = .ok bytes) :
    frame.write field = (.ok (), ⟨frame.content ++ bytes⟩) := by
  simp only [write, fits]

theorem write_error (frame : Frame) (field : Field) (fault : Fault) (refused : field.encode = .error fault) :
    frame.write field = (.error fault, frame) := by
  simp only [write, refused]

end Frame

end SerialPanel
