import SerialPanel.Proofs.Polling
namespace SerialPanel

-- A line seen without something that it keeps besides. It answers as before.
structure Line.Follows {σ τ : Type} [Line σ] [Line τ] (view : σ → τ) : Prop where
  write : ∀ line bytes, Line.write (view line) bytes =
    ⟨(Line.write line bytes).result, (Line.write line bytes).arrived, view (Line.write line bytes).line⟩
  wait : ∀ line millis, Line.wait (view line) millis = ((Line.wait line millis).1, view (Line.wait line millis).2)

namespace Line.Follows

variable {σ τ : Type} [Line σ] [Line τ] {view : σ → τ}

theorem visits (follows : Line.Follows view) (line : σ) (visits : List Visit) :
    visits.foldl visit (view line) = view (visits.foldl visit line) := by
  induction visits generalizing line with
  | nil => rfl
  | cons one later ih =>
    have same : visit (view line) one = view (visit line one) := by
      cases one with
      | write bytes => exact congrArg Written.line (follows.write line bytes)
      | wait millis => exact congrArg Prod.snd (follows.wait line millis)
    rw [List.foldl_cons, List.foldl_cons, same, ih]

theorem accepts (follows : Line.Follows view) {line : σ} (accepts : Accepts (view line)) : Accepts line := by
  intro visits bytes
  have taken := accepts visits bytes
  rw [follows.visits, follows.write] at taken
  exact taken

end Line.Follows

namespace Link

variable {σ τ : Type}

def seen (view : σ → τ) (link : Link σ) : Link τ := { link with line := view link.line }

theorem arrive_seen (view : σ → τ) (link : Link σ) (bytes : Bytes) :
    (link.seen view).arrive bytes = (link.arrive bytes).seen view := by
  unfold arrive seen
  split
  · rfl
  · rfl

section

variable [Line σ] [Line τ] {view : σ → τ} (follows : Line.Follows view)

include follows

theorem write_seen (link : Link σ) (bytes : Bytes) :
    (link.seen view).write bytes = ((link.write bytes).1, (link.write bytes).2.seen view) := by
  unfold write
  simp only [← arrive_seen]
  have written := follows.write link.line bytes
  unfold seen
  rw [written]

theorem wait_seen (link : Link σ) (millis : UInt64) :
    (link.seen view).wait millis = (link.wait millis).seen view := by
  unfold wait
  simp only [← arrive_seen]
  have waited := follows.wait link.line millis.toNat
  unfold seen
  rw [waited]

theorem transmit_seen (link : Link σ) (content : Bytes) :
    (link.seen view).transmit content = ((link.transmit content).1, (link.transmit content).2.seen view) := by
  have settings : (link.seen view).settings = link.settings := rfl
  unfold transmit
  rw [write_seen follows, settings]
  rcases link.write (link.settings.headed content) with ⟨first, written⟩
  cases first with
  | error source => rfl
  | ok _ =>
    simp only [write_seen follows]
    rcases written.write frameTail with ⟨second, closed⟩
    cases second with
    | error source => rfl
    | ok _ => exact congrArg _ (wait_seen follows { closed with framesSent := closed.framesSent + 1 } _)

theorem transmitAll_seen (link : Link σ) (contents : List Bytes) :
    (link.seen view).transmitAll contents =
      ((link.transmitAll contents).1, (link.transmitAll contents).2.seen view) := by
  induction contents generalizing link with
  | nil => rfl
  | cons content later ih =>
    rw [transmitAll_cons, transmitAll_cons, transmit_seen follows]
    cases (link.transmit content).1 with
    | error fault => rfl
    | ok _ => exact ih _

theorem poll_seen (link : Link σ) (collector : Collector) :
    (link.seen view).poll collector = ((link.poll collector).1, (link.poll collector).2.seen view) := by
  have waited : (link.seen view).wait (link.seen view).settings.pollInterval =
      (link.wait link.settings.pollInterval).seen view := wait_seen follows link link.settings.pollInterval
  have received : ((link.wait link.settings.pollInterval).seen view).received =
      (link.wait link.settings.pollInterval).received := rfl
  induction link, collector using poll.induct with
  | case1 link collector data rest taken next recorded =>
    cases taken
    rw [poll_eq, poll_eq, waited]
    simp only [received, recorded]
    rfl
  | case2 link collector data rest taken next recorded =>
    cases taken
    rw [poll_eq, poll_eq, waited]
    simp only [received, recorded]
    rfl
  | case3 link collector data rest taken next recorded ih =>
    cases taken
    rw [poll_eq, poll_eq, waited]
    simp only [received, recorded]
    exact ih (wait_seen follows _ _) rfl

theorem opened_seen (link : Link σ) : (link.seen view).opened = link.opened.seen view := by
  have sent : (link.seen view).begun.transmit [Opcode.handshake] = _ := transmit_seen follows link.begun _
  unfold opened
  rw [sent]
  exact wait_seen follows _ _

theorem handshake_seen (link : Link σ) :
    (link.seen view).handshake = (link.handshake.1, link.handshake.2.seen view) := by
  have sent : (link.seen view).begun.transmit [Opcode.handshake] = _ := transmit_seen follows link.begun _
  have outcome : ((link.seen view).begun.transmit [Opcode.handshake]).1 = (link.begun.transmit [Opcode.handshake]).1 :=
    congrArg Prod.fst sent
  cases own : (link.begun.transmit [Opcode.handshake]).1 with
  | error fault =>
    rw [handshake_failed own, handshake_failed (outcome.trans own), sent]
  | ok _ =>
    have settings : (link.opened.seen view).settings = link.opened.settings := rfl
    rw [handshake_sent own, handshake_sent (outcome.trans own), opened_seen follows, poll_seen follows, settings]
    rcases link.opened.poll _ with ⟨answered, last⟩
    cases answered with
    | true => rfl
    | false => rfl

theorem chunks_seen (link : Link σ) (polls : Nat) : (link.seen view).chunks polls = link.chunks polls := by
  induction polls generalizing link with
  | zero => rfl
  | succ polls ih =>
    have waited : (link.seen view).wait (link.seen view).settings.pollInterval =
        (link.wait link.settings.pollInterval).seen view := wait_seen follows link link.settings.pollInterval
    rw [chunks, chunks, waited]
    exact congrArg (_ :: ·) (ih (link.wait link.settings.pollInterval).drain.2)

theorem Drained.seen {link : Link σ} {drained : List Bytes} (polled : link.Drained drained) :
    (link.seen view).Drained drained where
  chunks := by
    rw [opened_seen follows, chunks_seen follows]
    exact polled.chunks
  undecided := polled.undecided
  decided := polled.decided

end

end Link

end SerialPanel
