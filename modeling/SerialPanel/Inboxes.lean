import SerialPanel.Bytes
namespace SerialPanel

structure Inboxes where
  buffers : List Bytes
  handles : List Nat
  callbacks : List Nat
  deriving DecidableEq, Repr

namespace Inboxes

def one : Inboxes := ⟨[[]], [0], []⟩

inductive Step where
  | append (handle : Nat) (data : Bytes)
  | drain (handle : Nat)
  | share (handle : Nat)
  | add
  | callback (handle : Nat)
  | call (callback : Nat) (data : Bytes)
  deriving DecidableEq, Repr

def waiting (inboxes : Inboxes) (buffer : Nat) : Bytes := inboxes.buffers.getD buffer []

def view (inboxes : Inboxes) : List Bytes := inboxes.handles.map inboxes.waiting

def extend (inboxes : Inboxes) (buffer : Nat) (data : Bytes) : Inboxes :=
  { inboxes with buffers := inboxes.buffers.modify buffer (· ++ data) }

-- The bytes that the step drained, if it drains, and the buffers afterwards. A
-- step on a handle or callback that does not exist does nothing.
def advance (inboxes : Inboxes) : Step → Option Bytes × Inboxes
  | .append handle data =>
    match inboxes.handles[handle]? with
    | some buffer => (none, inboxes.extend buffer data)
    | none => (none, inboxes)
  | .drain handle =>
    match inboxes.handles[handle]? with
    | some buffer =>
      (some (inboxes.waiting buffer), { inboxes with buffers := inboxes.buffers.set buffer [] })
    | none => (none, inboxes)
  | .share handle =>
    match inboxes.handles[handle]? with
    | some buffer => (none, { inboxes with handles := inboxes.handles ++ [buffer] })
    | none => (none, inboxes)
  | .add =>
    (none, { inboxes with
      buffers := inboxes.buffers ++ [[]], handles := inboxes.handles ++ [inboxes.buffers.length] })
  | .callback handle =>
    match inboxes.handles[handle]? with
    | some buffer => (none, { inboxes with callbacks := inboxes.callbacks ++ [buffer] })
    | none => (none, inboxes)
  | .call callback data =>
    match inboxes.callbacks[callback]? with
    | some buffer => (none, inboxes.extend buffer data)
    | none => (none, inboxes)

def run (inboxes : Inboxes) (steps : List Step) : Inboxes :=
  steps.foldl (fun inboxes step => (inboxes.advance step).2) inboxes

theorem run_append (inboxes : Inboxes) (first second : List Step) :
    inboxes.run (first ++ second) = (inboxes.run first).run second := by
  simp [run]

end Inboxes

end SerialPanel
