import SerialPanel.Fault
namespace SerialPanel.Stream

inductive Acceptance where
  | take (limit : Nat)
  | fail (kind : LineFault.Kind)
  deriving DecidableEq, Repr

structure Sink where
  results : List Acceptance := []
  flushes : List (Option LineFault.Kind) := []
  deriving DecidableEq, Repr

inductive Call where
  | took (bytes : Bytes)
  | failed (kind : LineFault.Kind)
  | flush
  deriving DecidableEq, Repr

def writeZero : LineFault := ⟨.writeZero, "failed to write whole buffer"⟩

-- Writes until nothing is left. An interrupted call is made again; a call that
-- takes nothing ends the attempt, as would any other fault.
def writeAll : List Acceptance → Bytes → List Call × Except LineFault Unit × List Acceptance
  | results, [] => ([], .ok (), results)
  | [], bytes => ([.took bytes], .ok (), [])
  | .fail .interrupted :: later, bytes =>
    let (calls, result, rest) := writeAll later bytes
    (.failed .interrupted :: calls, result, rest)
  | .fail kind :: later, _ => ([.failed kind], .error ⟨kind, "scripted write"⟩, later)
  | .take limit :: later, bytes =>
    if limit = 0 then ([.took []], .error writeZero, later)
    else
      let (calls, result, rest) := writeAll later (bytes.drop limit)
      (.took (bytes.take limit) :: calls, result, rest)

namespace Sink

def flush (sink : Sink) : Except LineFault Unit × Sink :=
  match sink.flushes with
  | [] | none :: _ => (.ok (), { sink with flushes := sink.flushes.drop 1 })
  | some kind :: later => (.error ⟨kind, "scripted flush"⟩, { sink with flushes := later })

def write (sink : Sink) (bytes : Bytes) : List Call × Except LineFault Unit × Sink :=
  match writeAll sink.results bytes with
  | (calls, .error fault, results) => (calls, .error fault, { sink with results })
  | (calls, .ok _, results) =>
    let (result, sink) := { sink with results }.flush
    (calls ++ [.flush], result, sink)

end Sink

end SerialPanel.Stream
