import SerialPanel.Fault
namespace SerialPanel.Stream

inductive ReadResult where
  | data (bytes : Bytes)
  | fault (kind : LineFault.Kind)
  deriving DecidableEq, Repr

def isIdle : LineFault.Kind → Bool
  | .timedOut | .wouldBlock | .interrupted => true
  | _ => false

def maxReadFaults : Nat := 10

inductive Outcome where
  | deliver (bytes : Bytes)
  | carryOn (faults : Nat)
  | stop
  deriving DecidableEq, Repr

def outcome (faults : Nat) : ReadResult → Outcome
  | .data [] => .stop
  | .data bytes => .deliver bytes
  | .fault kind =>
    if isIdle kind then .carryOn faults
    else if maxReadFaults ≤ faults + 1 then .stop
    else .carryOn (faults + 1)

def readLimit : Nat := 64

-- The space that all reads share: each puts its bytes in front and leaves what an
-- earlier, longer one put behind them.
def overwrite (space bytes : Bytes) : Bytes := bytes ++ space.drop bytes.length

theorem overwrite_take (space bytes : Bytes) : (overwrite space bytes).take bytes.length = bytes := List.take_left

abbrev Incoming := List ReadResult

def readOnce : Incoming → Option (ReadResult × Incoming)
  | [] => none
  | .fault kind :: later => some (.fault kind, later)
  | .data bytes :: later =>
    if bytes.length ≤ readLimit then some (.data bytes, later)
    else some (.data (bytes.take readLimit), .data (bytes.drop readLimit) :: later)

def size : Incoming → Nat
  | [] => 0
  | .fault _ :: later => 1 + size later
  | .data bytes :: later => 1 + bytes.length + size later

theorem readOnce_size (incoming later : Incoming) (result : ReadResult)
    (read : readOnce incoming = some (result, later)) : size later < size incoming := by
  unfold readOnce at read
  split at read
  · cases read
  · cases read
    simp only [size]
    omega
  · split at read
    · cases read
      simp only [size]
      omega
    · rename_i long
      cases read
      simp only [size, readLimit, List.length_drop] at long ⊢
      omega

end SerialPanel.Stream
