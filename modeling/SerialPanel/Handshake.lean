import SerialPanel.Coded
import SerialPanel.Protocol
namespace SerialPanel

inductive LinkState where
  | uninitialized
  | handshakePending
  | ready
  deriving DecidableEq, Repr

instance : Inhabited LinkState := ⟨.uninitialized⟩

namespace LinkState

def name : LinkState → String
  | .uninitialized => "Uninitialized"
  | .handshakePending => "HandshakePending"
  | .ready => "Ready"

instance : Named LinkState where
  all := [.uninitialized, .handshakePending, .ready]
  name := name

def isReady (state : LinkState) : Bool := state == .ready

def attempted : LinkState → LinkState
  | .ready => .ready
  | _ => .handshakePending

end LinkState

inductive Progress where
  | pending
  | acknowledged
  | exhausted
  deriving DecidableEq, Repr

structure Collector where
  maxPolls : Nat
  maxResyncs : Nat
  bytes : Bytes := []
  polls : Nat := 0
  resyncs : Nat := 0
  deriving DecidableEq, Repr

namespace Collector

def start (maxPolls maxResyncs : Nat) : Collector := { maxPolls, maxResyncs }

def isNoise (bytes : Bytes) : Bool := bytes.head? != acknowledgement.head?

def resync (collector : Collector) : Progress × Collector :=
  (if collector.maxResyncs < collector.resyncs + 1 then .exhausted else .pending,
   { collector with bytes := [], polls := 0, resyncs := collector.resyncs + 1 })

def count (collector : Collector) : Progress × Collector :=
  (if collector.maxPolls ≤ collector.polls + 1 then .exhausted else .pending,
   { collector with polls := collector.polls + 1 })

-- Takes in what one poll drained, which may be nothing. An empty poll never
-- acknowledges, whatever was collected before it.
def record (collector : Collector) (data : Bytes) : Progress × Collector :=
  if data.isEmpty then collector.count
  else
    let collector := { collector with bytes := collector.bytes ++ data }
    if isNoise collector.bytes then collector.resync
    else if isAcknowledgement collector.bytes then (.acknowledged, collector)
    else collector.count

def run (collector : Collector) : List Bytes → List (Progress × Collector)
  | [] => []
  | data :: later =>
    let step := collector.record data
    step :: step.2.run later

-- Every poll that leaves an attempt open uses up a resync, or a poll of the
-- count that the last resync began.
theorem record_pending (collector next : Collector) (data : Bytes)
    (recorded : collector.record data = (.pending, next)) :
    next.maxPolls = collector.maxPolls ∧ next.maxResyncs = collector.maxResyncs ∧
      (next.resyncs = collector.resyncs + 1 ∧ next.resyncs ≤ next.maxResyncs ∨
        next.resyncs = collector.resyncs ∧ next.polls = collector.polls + 1 ∧
          next.polls < next.maxPolls) := by
  have counted : ∀ c : Collector, c.count = (.pending, next) →
      next.maxPolls = c.maxPolls ∧ next.maxResyncs = c.maxResyncs ∧
        next.resyncs = c.resyncs ∧ next.polls = c.polls + 1 ∧ next.polls < next.maxPolls := by
    intro c counted
    simp only [count, Prod.mk.injEq, ite_eq_right_iff, reduceCtorEq, imp_false] at counted
    obtain ⟨unspent, rfl⟩ := counted
    exact ⟨rfl, rfl, rfl, rfl, by simp only; omega⟩
  unfold record at recorded
  split at recorded
  · obtain ⟨a, b, c, d, e⟩ := counted _ recorded
    exact ⟨a, b, .inr ⟨c, d, e⟩⟩
  · simp only at recorded
    split at recorded
    · simp only [resync, Prod.mk.injEq, ite_eq_right_iff, reduceCtorEq, imp_false] at recorded
      obtain ⟨unspent, rfl⟩ := recorded
      exact ⟨rfl, rfl, .inl ⟨rfl, by simp only; omega⟩⟩
    · split at recorded
      · simp at recorded
      · obtain ⟨a, b, c, d, e⟩ := counted _ recorded
        exact ⟨a, b, .inr ⟨c, d, e⟩⟩

end Collector

end SerialPanel
