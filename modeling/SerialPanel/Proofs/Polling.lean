import Mathlib.Data.List.Induction
import SerialPanel.Proofs.Attempt
namespace SerialPanel

namespace Collector

def Discards (collector : Collector) (data : Bytes) : Prop :=
  data ≠ [] ∧ isNoise (collector.bytes ++ data) = true

instance (collector : Collector) (data : Bytes) : Decidable (collector.Discards data) :=
  inferInstanceAs (Decidable (_ ∧ _))

theorem record_cases (collector : Collector) (data : Bytes) :
    let joined := { collector with bytes := collector.bytes ++ data }
    (collector.Discards data ∧ collector.record data = joined.resync) ∨
    (¬collector.Discards data ∧ data ≠ [] ∧ isAcknowledgement joined.bytes = true ∧
      collector.record data = (.acknowledged, joined)) ∨
    (¬collector.Discards data ∧ (data = [] ∨ isAcknowledgement joined.bytes = false) ∧
      collector.record data = joined.count) := by
  intro joined
  by_cases empty : data = []
  · subst empty
    have same : joined = collector := by simp [joined]
    refine .inr (.inr ⟨fun discards => discards.1 rfl, .inl rfl, ?_⟩)
    rw [same]
    rfl
  · have filled : data.isEmpty = false := by simpa using empty
    unfold record
    simp only [filled, Bool.false_eq_true, if_false]
    by_cases noise : isNoise joined.bytes = true
    · exact .inl ⟨⟨empty, noise⟩, if_pos noise⟩
    · have kept : ¬collector.Discards data := by
        intro discards
        exact noise discards.2
      rw [if_neg noise]
      by_cases answered : isAcknowledgement joined.bytes = true
      · exact .inr (.inl ⟨kept, empty, answered, if_pos answered⟩)
      · exact .inr (.inr ⟨kept, .inr (Bool.eq_false_iff.mpr answered), if_neg answered⟩)

theorem record_discarded {collector : Collector} {data : Bytes} (discards : collector.Discards data) :
    (collector.record data).2.bytes = [] := by
  rcases collector.record_cases data with ⟨_, recorded⟩ | ⟨kept, _⟩ | ⟨kept, _⟩
  · rw [recorded]
    rfl
  · exact absurd discards kept
  · exact absurd discards kept

theorem record_kept {collector : Collector} {data : Bytes} (kept : ¬collector.Discards data) :
    (collector.record data).2.bytes = collector.bytes ++ data := by
  rcases collector.record_cases data with ⟨discards, _⟩ | ⟨_, _, _, recorded⟩ | ⟨_, _, recorded⟩
  · exact absurd discards kept
  · rw [recorded]
  · rw [recorded]
    rfl

theorem record_answered {collector : Collector} {data : Bytes}
    (answered : (collector.record data).1 = .acknowledged) :
    ¬collector.Discards data ∧ isAcknowledgement (collector.bytes ++ data) = true := by
  rcases collector.record_cases data with ⟨_, recorded⟩ | ⟨kept, _, opens, _⟩ | ⟨_, _, recorded⟩
  · rw [recorded] at answered
    exact absurd answered (resync_open _)
  · exact ⟨kept, opens⟩
  · rw [recorded] at answered
    exact absurd answered (count_open _)

def feed (collector : Collector) : List Bytes → Progress × Collector
  | [] => (.pending, collector)
  | data :: later =>
    match collector.record data with
    | (.pending, next) => next.feed later
    | decided => decided

theorem feed_cons_open {collector : Collector} {data : Bytes} (undecided : (collector.record data).1 = .pending)
    (later : List Bytes) : collector.feed (data :: later) = (collector.record data).2.feed later := by
  rw [feed]
  split
  · rename_i next recorded
    rw [recorded]
  · rename_i decided
    exact (decided _ (Prod.ext undecided rfl)).elim

theorem feed_cons_decided {collector : Collector} {data : Bytes} (decides : (collector.record data).1 ≠ .pending)
    (later : List Bytes) : collector.feed (data :: later) = collector.record data := by
  rw [feed]
  split
  · rename_i next recorded
    rw [recorded] at decides
    exact absurd rfl decides
  · rfl

theorem feed_append_open {collector : Collector} {first : List Bytes} (undecided : (collector.feed first).1 = .pending)
    (second : List Bytes) : collector.feed (first ++ second) = (collector.feed first).2.feed second := by
  induction first generalizing collector with
  | nil => rfl
  | cons data later ih =>
    by_cases step : (collector.record data).1 = .pending
    · rw [feed_cons_open step] at undecided ⊢
      rw [List.cons_append, feed_cons_open step, ih undecided]
    · rw [feed_cons_decided step] at undecided
      exact absurd undecided step

theorem feed_append_decided {collector : Collector} {first : List Bytes} (decided : (collector.feed first).1 ≠ .pending)
    (second : List Bytes) : collector.feed (first ++ second) = collector.feed first := by
  induction first generalizing collector with
  | nil => exact absurd rfl decided
  | cons data later ih =>
    by_cases step : (collector.record data).1 = .pending
    · rw [feed_cons_open step] at decided ⊢
      rw [List.cons_append, feed_cons_open step, ih decided]
    · rw [List.cons_append, feed_cons_decided step, feed_cons_decided step]

theorem feed_singleton (collector : Collector) (data : Bytes) : collector.feed [data] = collector.record data := by
  by_cases step : (collector.record data).1 = .pending
  · rw [feed_cons_open step]
    exact Prod.ext step.symm rfl
  · exact feed_cons_decided step []

theorem feed_snoc {collector : Collector} {front : List Bytes} (undecided : (collector.feed front).1 = .pending)
    (data : Bytes) : collector.feed (front ++ [data]) = (collector.feed front).2.record data := by
  rw [feed_append_open undecided, feed_singleton]

theorem feed_front_open {collector : Collector} {first second : List Bytes}
    (undecided : (collector.feed (first ++ second)).1 = .pending) : (collector.feed first).1 = .pending := by
  by_cases step : (collector.feed first).1 = .pending
  · exact step
  · rw [feed_append_decided step] at undecided
    exact undecided

theorem feed_acknowledged {collector : Collector} {chunks : List Bytes}
    (answered : (collector.feed chunks).1 = .acknowledged) :
    isAcknowledgement (collector.feed chunks).2.bytes = true := by
  induction chunks generalizing collector with
  | nil => cases answered
  | cons data later ih =>
    by_cases step : (collector.record data).1 = .pending
    · rw [feed_cons_open step] at answered ⊢
      exact ih answered
    · rw [feed_cons_decided step] at answered ⊢
      obtain ⟨kept, opens⟩ := record_answered answered
      rw [record_kept kept]
      exact opens

structure Settled (collector : Collector) (noise kept : List Bytes) : Prop where
  discarded : noise = [] ∨
    ∃ front chunk, noise = front ++ [chunk] ∧ (collector.feed front).2.Discards chunk
  retained : ∀ front chunk rest, kept = front ++ chunk :: rest →
    ¬(collector.feed (noise ++ front)).2.Discards chunk

-- What is collected at any time is what came behind that chunk. By induction on the
-- last poll, which can decide; those before it have not.
theorem feed_settled {collector : Collector} (fresh : collector.bytes = []) (drained : List Bytes)
    (undecided : (collector.feed drained.dropLast).1 = .pending) :
    ∃ noise kept, drained = noise ++ kept ∧ collector.Settled noise kept ∧
      (collector.feed drained).2.bytes = kept.flatten := by
  induction drained using List.reverseRecOn with
  | nil => exact ⟨[], [], rfl, ⟨.inl rfl, by simp⟩, fresh⟩
  | append_singleton front chunk ih =>
    rw [List.dropLast_concat] at undecided
    have earlier : (collector.feed front.dropLast).1 = .pending := by
      rcases List.eq_nil_or_concat front with rfl | ⟨first, last, rfl⟩
      · rfl
      · rw [List.concat_eq_append] at undecided ⊢
        rw [List.dropLast_concat]
        exact feed_front_open undecided
    obtain ⟨noise, kept, split, settled, collected⟩ := ih earlier
    rw [feed_snoc undecided]
    by_cases discards : (collector.feed front).2.Discards chunk
    · refine ⟨front ++ [chunk], [], (List.append_nil _).symm, ⟨.inr ⟨front, chunk, rfl, discards⟩, by simp⟩, ?_⟩
      exact record_discarded discards
    · refine ⟨noise, kept ++ [chunk], by rw [split, List.append_assoc], ⟨settled.discarded, ?_⟩, ?_⟩
      · intro before other rest same
        rcases List.eq_nil_or_concat rest with rfl | ⟨between, last, rfl⟩
        · obtain ⟨rfl, final⟩ := List.append_inj' same rfl
          cases final
          rw [← split]
          exact discards
        · rw [List.concat_eq_append, ← List.cons_append, ← List.append_assoc] at same
          exact settled.retained before other between (List.append_inj' same rfl).1
      · rw [record_kept discards, collected, List.flatten_append, List.flatten_singleton]

theorem begins_answer {front back : Bytes} (opens : isAcknowledgement (front ++ back) = true) (filled : front ≠ []) :
    isNoise front = false := by
  cases front with
  | nil => exact absurd rfl filled
  | cons first more =>
    obtain ⟨rest, same⟩ := (isAcknowledgement_iff _).mp opens
    obtain ⟨rfl, _⟩ := List.cons.inj same
    rfl

-- An acknowledgement that is in within the budget of polls is seen, however it is cut
-- into chunks. By induction on the chunks still to come: nothing that begins like an
-- acknowledgement is thrown away, so every poll up to the answer only counts.
theorem feed_answered {collector : Collector} {chunks : List Bytes}
    (opens : isAcknowledgement (collector.bytes ++ chunks.flatten) = true)
    (waiting : isAcknowledgement collector.bytes = false)
    (budget : collector.polls + chunks.length ≤ collector.maxPolls) :
    (collector.feed chunks).1 = .acknowledged := by
  induction chunks generalizing collector with
  | nil =>
    rw [List.flatten_nil, List.append_nil, waiting] at opens
    cases opens
  | cons data later ih =>
    rw [List.flatten_cons, ← List.append_assoc] at opens
    rcases collector.record_cases data with ⟨discards, _⟩ | ⟨_, _, _, recorded⟩ | ⟨_, unanswered, recorded⟩
    · have filled : collector.bytes ++ data ≠ [] := by
        intro empty
        exact discards.1 (List.append_eq_nil_iff.mp empty).2
      have noise := discards.2
      rw [begins_answer opens filled] at noise
      cases noise
    · rw [feed_cons_decided (by rw [recorded]; simp), recorded]
    · have waits : isAcknowledgement (collector.bytes ++ data) = false := by
        rcases unanswered with empty | unanswered
        · rw [empty, List.append_nil]
          exact waiting
        · exact unanswered
      have more : later ≠ [] := by
        intro last
        rw [last, List.flatten_nil, List.append_nil, waits] at opens
        cases opens
      have length : 0 < later.length := List.length_pos_iff.mpr more
      rw [List.length_cons] at budget
      have undecided : (collector.record data).1 = .pending := by
        rw [recorded]
        exact if_neg (show ¬collector.maxPolls ≤ collector.polls + 1 by omega)
      rw [feed_cons_open undecided, recorded]
      exact ih opens waits (show collector.polls + 1 + later.length ≤ collector.maxPolls by omega)

end Collector

namespace Link

variable {σ : Type} [Line σ]

def polled (link : Link σ) : Nat → Link σ
  | 0 => link
  | polls + 1 => (link.wait link.settings.pollInterval).drain.2.polled polls

def chunks (link : Link σ) : Nat → List Bytes
  | 0 => []
  | polls + 1 =>
    (link.wait link.settings.pollInterval).received :: (link.wait link.settings.pollInterval).drain.2.chunks polls

@[simp] theorem chunks_length (link : Link σ) (polls : Nat) : (link.chunks polls).length = polls := by
  induction polls generalizing link with
  | zero => rfl
  | succ polls ih => exact congrArg (· + 1) (ih _)

theorem chunks_dropLast (link : Link σ) (polls : Nat) :
    (link.chunks (polls + 1)).dropLast = link.chunks polls := by
  induction polls generalizing link with
  | zero => rfl
  | succ polls ih => exact congrArg (_ :: ·) (ih _)

theorem chunks_take (link : Link σ) {polls all : Nat} (within : polls ≤ all) :
    (link.chunks all).take polls = link.chunks polls := by
  induction polls generalizing link all with
  | zero => rfl
  | succ polls ih =>
    cases all with
    | zero => exact absurd within (Nat.not_succ_le_zero polls)
    | succ all => exact congrArg (_ :: ·) (ih _ (Nat.le_of_succ_le_succ within))

theorem poll_decided {link : Link σ} {collector : Collector}
    (decides : (collector.record (link.wait link.settings.pollInterval).received).1 ≠ .pending) :
    link.poll collector =
      (decide ((collector.record (link.wait link.settings.pollInterval).received).1 = .acknowledged),
        (link.wait link.settings.pollInterval).drain.2) := by
  rw [poll_eq]
  simp only
  split
  · rename_i recorded
    simp [recorded]
  · rename_i recorded
    simp [recorded]
  · rename_i recorded
    rw [recorded] at decides
    exact absurd rfl decides

theorem poll_exact (link : Link σ) (collector : Collector) :
    ∃ polls, (collector.feed (link.chunks polls)).1 = .pending ∧
      (collector.feed (link.chunks (polls + 1))).1 ≠ .pending ∧
      link.poll collector =
        (decide ((collector.feed (link.chunks (polls + 1))).1 = .acknowledged), link.polled (polls + 1)) := by
  have atOnce : ∀ (link : Link σ) (collector : Collector),
      (collector.record (link.wait link.settings.pollInterval).received).1 ≠ .pending →
      (collector.feed (link.chunks 1)).1 ≠ .pending ∧
        link.poll collector = (decide ((collector.feed (link.chunks 1)).1 = .acknowledged), link.polled 1) := by
    intro link collector decides
    have only : collector.feed (link.chunks 1) = collector.record (link.wait link.settings.pollInterval).received :=
      collector.feed_singleton _
    rw [only]
    exact ⟨decides, poll_decided decides⟩
  induction link, collector using poll.induct with
  | case1 link collector data rest taken next recorded =>
    cases taken
    exact ⟨0, rfl, atOnce link collector (by rw [recorded]; simp)⟩
  | case2 link collector data rest taken next recorded =>
    cases taken
    exact ⟨0, rfl, atOnce link collector (by rw [recorded]; simp)⟩
  | case3 link collector data rest taken next recorded ih =>
    cases taken
    obtain ⟨polls, undecided, decided, polled⟩ := ih
    have step : ∀ polls, collector.feed (link.chunks (polls + 1)) =
        next.feed ((link.wait link.settings.pollInterval).drain.2.chunks polls) := by
      intro polls
      rw [chunks, Collector.feed_cons_open (by rw [recorded]), recorded]
    refine ⟨polls + 1, ?_, ?_, ?_⟩
    · rw [step]
      exact undecided
    · rw [step]
      exact decided
    · rw [step, poll_eq]
      simp only [recorded]
      exact polled

theorem polled_keeps (link : Link σ) (polls : Nat) : Keeps link (link.polled polls) := by
  induction polls generalizing link with
  | zero => exact .refl link
  | succ polls ih =>
    have waited := link.wait_keeps link.settings.pollInterval
    have drained : Keeps (link.wait link.settings.pollInterval) (link.wait link.settings.pollInterval).drain.2 :=
      ⟨rfl, rfl, rfl⟩
    exact (waited.trans drained).trans (ih _)

def begun (link : Link σ) : Link σ := { link with state := link.state.attempted }

def opened (link : Link σ) : Link σ :=
  let sent := (link.begun.transmit [Opcode.handshake]).2
  sent.wait sent.settings.handshakeSettle

def collector (link : Link σ) : Collector :=
  .start link.settings.maxPolls.toNat link.settings.maxResyncs.toNat

structure Drained (link : Link σ) (drained : List Bytes) : Prop where
  chunks : drained = link.opened.chunks drained.length
  undecided : (link.collector.feed drained.dropLast).1 = .pending
  decided : (link.collector.feed drained).1 ≠ .pending

theorem opened_keeps (link : Link σ) : Keeps link.begun link.opened :=
  (transmit_keeps _ _).trans (wait_keeps _ _)

theorem handshake_failed {link : Link σ} {fault : Fault}
    (failed : (link.begun.transmit [Opcode.handshake]).1 = .error fault) :
    link.handshake = (.error fault, (link.begun.transmit [Opcode.handshake]).2) := by
  unfold handshake begun at *
  split
  · rename_i other after outcome
    rw [outcome] at failed ⊢
    cases failed
    rfl
  · rename_i after outcome
    rw [outcome] at failed
    cases failed

theorem handshake_sent {link : Link σ} (sent : (link.begun.transmit [Opcode.handshake]).1 = .ok ()) :
    link.handshake =
      match link.opened.poll (.start link.opened.settings.maxPolls.toNat link.opened.settings.maxResyncs.toNat) with
      | (true, last) => (.ok true, { last with state := .ready })
      | (false, last) => (.ok false, last) := by
  unfold handshake
  split
  · rename_i fault after outcome
    have failed : (link.begun.transmit [Opcode.handshake]).1 = .error fault := congrArg Prod.fst outcome
    rw [sent] at failed
    cases failed
  · rename_i after outcome
    have same : after = (link.begun.transmit [Opcode.handshake]).2 := (congrArg Prod.snd outcome).symm
    subst same
    rfl

theorem handshake_exact {link : Link σ} (sent : (link.begun.transmit [Opcode.handshake]).1 = .ok ()) :
    ∃ drained, link.Drained drained ∧
      let answered := decide ((link.collector.feed drained).1 = .acknowledged)
      link.handshake =
        (.ok answered, { link.opened.polled drained.length with
          state := if answered then .ready else link.state.attempted }) := by
  obtain ⟨polls, undecided, decided, polled⟩ := link.opened.poll_exact link.collector
  have state : (link.opened.polled (polls + 1)).state = link.state.attempted :=
    (polled_keeps _ _).state.trans link.opened_keeps.state
  refine ⟨link.opened.chunks (polls + 1), ⟨?_, ?_, decided⟩, ?_⟩
  · rw [chunks_length]
  · rw [chunks_dropLast]
    exact undecided
  · have collector : .start link.opened.settings.maxPolls.toNat link.opened.settings.maxResyncs.toNat =
        link.collector := by
      rw [link.opened_keeps.settings]
      rfl
    rw [handshake_sent sent, collector, polled, chunks_length]
    cases decide ((link.collector.feed (link.opened.chunks (polls + 1))).1 = .acknowledged) with
    | true => rfl
    | false =>
      rw [← state]
      rfl

end Link

end SerialPanel
