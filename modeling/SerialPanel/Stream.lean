import SerialPanel.Stream.Reader
import SerialPanel.Stream.Writer
namespace SerialPanel

-- A line made of a read half and a write half. The reader starts with the first
-- callback and hands every chunk to the callback of that moment. Once it has
-- ended it is never started again.
structure Stream where
  incoming : Stream.Incoming := []
  sink : Stream.Sink := {}
  -- The callbacks registered so far: the bytes each has put into its buffer, and
  -- whether it breaks down on its next chunk. The last one is in charge.
  callbacks : List (Bytes × Bool) := []
  unread : Bool := true
  readers : Nat := 0
  space : Bytes := List.replicate Stream.readLimit 0
  faults : Nat := 0
  ended : Bool := false
  closed : Bool := false
  -- Chunks handed out, newest first: the callback's number and the chunk.
  delivered : List (Nat × Bytes) := []
  deriving DecidableEq, Repr

namespace Stream

def isReading (stream : Stream) : Bool := decide (0 < stream.readers) && !stream.ended && !stream.closed

def readerGone (stream : Stream) : Bool := stream.ended || stream.closed

def buffers (stream : Stream) : List Bytes := stream.callbacks.map (·.1)

def start (stream : Stream) : Stream :=
  if stream.unread then { stream with unread := false, readers := stream.readers + 1 } else stream

def register (stream : Stream) (breaks : Bool) : Stream :=
  { stream with callbacks := stream.callbacks ++ [([], breaks)] }.start

-- A chunk goes to the last callback alone. One that breaks down keeps nothing of
-- it and takes the reader with it.
def deliver (stream : Stream) (chunk : Bytes) : Stream :=
  let number := stream.callbacks.length - 1
  let stream := { stream with faults := 0, delivered := (number, chunk) :: stream.delivered }
  match stream.callbacks[number]? with
  | some (_, true) => { stream with ended := true }
  | _ => { stream with callbacks := stream.callbacks.modify number fun (buffer, breaks) => (buffer ++ chunk, breaks) }

def hear (stream : Stream) (result : ReadResult) : Stream :=
  match outcome stream.faults result with
  | .deliver bytes =>
    let space := overwrite stream.space bytes
    { stream with space }.deliver (space.take bytes.length)
  | .carryOn faults => { stream with faults }
  | .stop => { stream with ended := true }

def settle (stream : Stream) : Stream :=
  if stream.isReading then
    match _read : readOnce stream.incoming with
    | none => stream
    | some (result, later) => ({ stream with incoming := later }.hear result).settle
  else stream
termination_by size stream.incoming
decreasing_by
  have kept : ∀ s : Stream, (s.hear result).incoming = s.incoming := by
    intro s
    simp only [hear]
    split
    · simp only [deliver]
      split <;> rfl
    · rfl
    · rfl
  rw [kept]
  exact readOnce_size _ _ _ _read

theorem settle_eq (stream : Stream) :
    stream.settle =
      if stream.isReading then
        match readOnce stream.incoming with
        | none => stream
        | some (result, later) => ({ stream with incoming := later }.hear result).settle
      else stream := by
  rw [settle]
  split
  · split <;> simp_all
  · rfl

inductive Action where
  | feed (results : List ReadResult)
  | register (breaks : Bool)
  | script (results : List Acceptance) (flushes : List (Option LineFault.Kind))
  | write (bytes : Bytes)
  | drain
  | close
  deriving DecidableEq, Repr

inductive Answer where
  | nothing
  | written (calls : List Call) (result : Except LineFault Unit)
  | drained (buffers : List Bytes)

def advance (stream : Stream) : Action → Answer × Stream
  | .feed results => (.nothing, { stream with incoming := stream.incoming ++ results }.settle)
  | .register breaks => (.nothing, (stream.register breaks).settle)
  | .script results flushes =>
    (.nothing, { stream with sink :=
      ⟨stream.sink.results ++ results, stream.sink.flushes ++ flushes⟩ })
  | .write bytes =>
    let (calls, result, sink) := stream.sink.write bytes
    (.written calls result, { stream with sink })
  | .drain =>
    (.drained stream.buffers, { stream with callbacks := stream.callbacks.map fun (_, breaks) => ([], breaks) })
  | .close => (.nothing, { stream with closed := true })

def run (stream : Stream) (actions : List Action) : Stream :=
  actions.foldl (fun stream action => (stream.advance action).2) stream

theorem run_snoc (stream : Stream) (actions : List Action) (action : Action) :
    stream.run (actions ++ [action]) = ((stream.run actions).advance action).2 := by
  simp [run]

def look (stream : Stream) : List (Nat × Bytes) × Stream :=
  (stream.delivered.reverse, { stream with delivered := [] })

end Stream

end SerialPanel
