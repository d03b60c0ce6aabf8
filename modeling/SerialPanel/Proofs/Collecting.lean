import Mathlib.Data.List.Intervals
import SerialPanel.Proofs.Polling
namespace SerialPanel

namespace Collector

section

variable {chunks : Nat → Bytes}

-- The polls that find garbage in a stream of chunks, told from the stream alone: a
-- chunk that does not begin like an acknowledgement, with nothing but silence since
-- the garbage before it or since the start.
inductive Garbage (chunks : Nat → Bytes) : Nat → Prop where
  | first (quiet : ∀ earlier, earlier < poll → chunks earlier = []) (filled : chunks poll ≠ [])
      (off : (chunks poll).head? ≠ some 0xAA) : Garbage chunks poll
  | again (prior : Garbage chunks before) (sooner : before < poll)
      (quiet : ∀ between, before < between → between < poll → chunks between = [])
      (filled : chunks poll ≠ []) (off : (chunks poll).head? ≠ some 0xAA) : Garbage chunks poll

theorem Garbage.filled {poll : Nat} (garbage : Garbage chunks poll) : chunks poll ≠ [] := by
  cases garbage with
  | first quiet filled off => exact filled
  | again prior sooner quiet filled off => exact filled

theorem Garbage.unopened {poll : Nat} (garbage : Garbage chunks poll) :
    ∀ earlier, earlier ≤ poll → (chunks earlier).head? ≠ some 0xAA := by
  induction garbage with
  | first quiet filled off =>
    intro earlier within
    rcases Nat.lt_or_eq_of_le within with sooner | rfl
    · simp [quiet earlier sooner]
    · exact off
  | @again before poll prior sooner quiet filled off ih =>
    intro earlier within
    rcases Nat.lt_or_eq_of_le within with inside | rfl
    · rcases Nat.lt_or_ge before earlier with behind | covered
      · simp [quiet earlier behind inside]
      · exact ih earlier covered
    · exact off

theorem garbage_behind {poll : Nat} (filled : chunks poll ≠ []) (off : (chunks poll).head? ≠ some 0xAA)
    (earlier : ∀ before, before < poll → chunks before ≠ [] → Garbage chunks before) (place : Nat)
    (within : place ≤ poll) (quiet : ∀ between, place ≤ between → between < poll → chunks between = []) :
    Garbage chunks poll := by
  induction place with
  | zero =>
    apply Garbage.first _ filled off
    intro before sooner
    exact quiet before (Nat.zero_le before) sooner
  | succ place ih =>
    by_cases silent : chunks place = []
    · apply ih (Nat.le_of_succ_le within)
      intro between behind inside
      rcases Nat.lt_or_eq_of_le behind with further | rfl
      · exact quiet between further inside
      · exact silent
    · exact .again (earlier place within silent) within quiet filled off

theorem garbage_iff {poll : Nat} :
    Garbage chunks poll ↔ chunks poll ≠ [] ∧ ∀ earlier, earlier ≤ poll → (chunks earlier).head? ≠ some 0xAA := by
  constructor
  · intro garbage
    exact ⟨garbage.filled, garbage.unopened⟩
  · intro ⟨filled, unopened⟩
    induction poll using Nat.strongRecOn with
    | ind poll ih =>
      apply garbage_behind filled (unopened poll (Nat.le_refl poll)) _ poll (Nat.le_refl poll)
      · intro between behind inside
        exact absurd inside (Nat.not_lt.mpr behind)
      · intro before sooner nonempty
        apply ih before sooner nonempty
        intro earlier within
        exact unopened earlier (Nat.le_trans within (Nat.le_of_lt sooner))

instance (chunks : Nat → Bytes) : DecidablePred (Garbage chunks) := fun poll =>
  decidable_of_iff (chunks poll ≠ [] ∧ ∀ earlier, earlier ≤ poll → (chunks earlier).head? ≠ some 0xAA)
    garbage_iff.symm

structure LastGarbage (chunks : Nat → Bytes) (polls last : Nat) : Prop where
  within : last ≤ polls
  found : last = 0 ∨ ∃ garbage, last = garbage + 1 ∧ Garbage chunks garbage
  clean : ∀ poll, last ≤ poll → poll < polls → ¬Garbage chunks poll

theorem LastGarbage.extend {polls last : Nat} (cut : LastGarbage chunks polls last)
    (clean : ¬Garbage chunks polls) : LastGarbage chunks (polls + 1) last := by
  refine ⟨Nat.le_succ_of_le cut.within, cut.found, ?_⟩
  intro poll behind within
  rcases Nat.lt_succ_iff_lt_or_eq.mp within with sooner | rfl
  · exact cut.clean poll behind sooner
  · exact clean

theorem LastGarbage.here {poll : Nat} (garbage : Garbage chunks poll) :
    LastGarbage chunks (poll + 1) (poll + 1) := by
  refine ⟨Nat.le_refl _, .inr ⟨poll, rfl, garbage⟩, ?_⟩
  intro other behind within
  exact absurd within (Nat.not_lt.mpr behind)

end

def reached (collector : Collector) (chunks : Nat → Bytes) : Nat → Collector
  | 0 => collector
  | polls + 1 => ((collector.reached chunks polls).record (chunks polls)).2

def answer (collector : Collector) (chunks : Nat → Bytes) (poll : Nat) : Progress :=
  ((collector.reached chunks poll).record (chunks poll)).1

theorem reached_next (collector : Collector) (chunks : Nat → Bytes) (polls : Nat) :
    (collector.record (chunks 0)).2.reached (fun poll => chunks (poll + 1)) polls =
      collector.reached chunks (polls + 1) := by
  induction polls with
  | zero => rfl
  | succ polls ih =>
    rw [reached, ih]
    rfl

theorem run_reached (collector : Collector) (chunks : Nat → Bytes) (polls : Nat) :
    collector.run ((List.range polls).map chunks) =
      (List.range polls).map fun poll =>
        (collector.answer chunks poll, collector.reached chunks (poll + 1)) := by
  induction polls generalizing collector chunks with
  | zero => rfl
  | succ polls ih =>
    have later := ih (collector.record (chunks 0)).2 fun poll => chunks (poll + 1)
    rw [List.range_succ_eq_map, List.map_cons, List.map_map, List.map_cons, List.map_map, run]
    refine congrArg₂ List.cons rfl (later.trans ?_)
    apply List.map_congr_left
    intro poll _
    exact Prod.ext (by simp only [answer, Function.comp, reached_next]) (reached_next collector chunks (poll + 1))

theorem isNoise_iff (bytes : Bytes) : isNoise bytes = true ↔ bytes.head? ≠ some 0xAA := by
  simp [isNoise, acknowledgement]

theorem reached_budget (collector : Collector) (chunks : Nat → Bytes) (polls : Nat) :
    (collector.reached chunks polls).maxPolls = collector.maxPolls ∧
      (collector.reached chunks polls).maxResyncs = collector.maxResyncs := by
  induction polls with
  | zero => exact ⟨rfl, rfl⟩
  | succ polls ih =>
    rw [reached]
    rcases (collector.reached chunks polls).record_cases (chunks polls) with
      ⟨_, recorded⟩ | ⟨_, _, _, recorded⟩ | ⟨_, _, recorded⟩
    · rw [recorded]
      exact ih
    · rw [recorded]
      exact ih
    · rw [recorded]
      exact ih

section

variable (maxPolls maxResyncs : Nat) (chunks : Nat → Bytes)

-- Nothing is collected until a chunk begins like an acknowledgement, and from then on
-- what is collected begins like one.
theorem reached_opened (polls : Nat) :
    ((start maxPolls maxResyncs).reached chunks polls).bytes = [] ∧
        (∀ earlier, earlier < polls → (chunks earlier).head? ≠ some 0xAA) ∨
      ((start maxPolls maxResyncs).reached chunks polls).bytes.head? = some 0xAA ∧
        ∃ earlier, earlier < polls ∧ (chunks earlier).head? = some 0xAA := by
  induction polls with
  | zero => exact .inl ⟨rfl, fun earlier impossible => absurd impossible (Nat.not_lt_zero earlier)⟩
  | succ polls ih =>
    have extend : (∀ earlier, earlier < polls → (chunks earlier).head? ≠ some 0xAA) →
        (chunks polls).head? ≠ some 0xAA →
          ∀ earlier, earlier < polls + 1 → (chunks earlier).head? ≠ some 0xAA := by
      intro before own earlier within
      rcases Nat.lt_succ_iff_lt_or_eq.mp within with sooner | rfl
      · exact before earlier sooner
      · exact own
    rw [reached]
    by_cases discards : ((start maxPolls maxResyncs).reached chunks polls).Discards (chunks polls)
    · rw [record_discarded discards]
      have noise := (isNoise_iff _).mp discards.2
      rcases ih with ⟨nothing, before⟩ | ⟨opens, _⟩
      · rw [nothing] at noise
        exact .inl ⟨rfl, extend before noise⟩
      · rw [List.head?_append, opens] at noise
        exact absurd rfl noise
    · rw [record_kept discards]
      rcases ih with ⟨nothing, before⟩ | ⟨opens, earlier, sooner, opening⟩
      · rw [nothing, List.nil_append]
        by_cases filled : chunks polls = []
        · exact .inl ⟨filled, extend before (by simp [filled])⟩
        · have opening : (chunks polls).head? = some 0xAA := by
            by_contra off
            apply discards
            refine ⟨filled, (isNoise_iff _).mpr ?_⟩
            rw [nothing]
            exact off
          exact .inr ⟨opening, polls, Nat.lt_succ_self polls, opening⟩
      · refine .inr ⟨?_, earlier, Nat.lt_succ_of_lt sooner, opening⟩
        rw [List.head?_append, opens]
        rfl

theorem discards_iff (poll : Nat) :
    ((start maxPolls maxResyncs).reached chunks poll).Discards (chunks poll) ↔ Garbage chunks poll := by
  rw [garbage_iff]
  unfold Discards
  rw [isNoise_iff]
  apply and_congr_right
  intro filled
  rcases reached_opened maxPolls maxResyncs chunks poll with
    ⟨nothing, before⟩ | ⟨opens, earlier, sooner, opening⟩
  · rw [nothing, List.nil_append]
    constructor
    · intro off earlier within
      rcases Nat.lt_or_eq_of_le within with sooner | rfl
      · exact before earlier sooner
      · exact off
    · intro unopened
      exact unopened poll (Nat.le_refl poll)
  · rw [List.head?_append, opens]
    constructor
    · intro off
      exact absurd rfl off
    · intro unopened
      exact absurd opening (unopened earlier (Nat.le_of_lt sooner))

inductive Outcome (poll : Nat) (before after : Collector) (answer : Progress) : Prop where
  | discarded (garbage : Garbage chunks poll) (emptied : after.bytes = []) (restarted : after.polls = 0)
      (resyncs : after.resyncs = before.resyncs + 1)
      (said : answer = if maxResyncs < after.resyncs then .exhausted else .pending)
  | acknowledged (clean : ¬Garbage chunks poll) (collected : after.bytes = before.bytes ++ chunks poll)
      (resyncs : after.resyncs = before.resyncs) (filled : chunks poll ≠ [])
      (opens : [0xAA, 0x00, 0x4F, 0x4B] <+: after.bytes) (uncounted : after.polls = before.polls)
      (said : answer = .acknowledged)
  | counted (clean : ¬Garbage chunks poll) (collected : after.bytes = before.bytes ++ chunks poll)
      (resyncs : after.resyncs = before.resyncs)
      (waits : ¬(chunks poll ≠ [] ∧ [0xAA, 0x00, 0x4F, 0x4B] <+: after.bytes))
      (counted : after.polls = before.polls + 1)
      (said : answer = if maxPolls ≤ after.polls then .exhausted else .pending)

theorem reached_outcome (poll : Nat) :
    Outcome maxPolls maxResyncs chunks poll ((start maxPolls maxResyncs).reached chunks poll)
      ((start maxPolls maxResyncs).reached chunks (poll + 1))
      ((start maxPolls maxResyncs).answer chunks poll) := by
  obtain ⟨polls, resyncs⟩ := reached_budget (start maxPolls maxResyncs) chunks poll
  have thrown := discards_iff maxPolls maxResyncs chunks poll
  rw [reached, answer]
  rcases ((start maxPolls maxResyncs).reached chunks poll).record_cases (chunks poll) with
    ⟨discards, recorded⟩ | ⟨kept, filled, opens, recorded⟩ | ⟨kept, unanswered, recorded⟩
  · rw [recorded]
    apply Outcome.discarded (thrown.mp discards) rfl rfl rfl
    rw [resyncs]
    rfl
  · rw [recorded]
    have clean : ¬Garbage chunks poll := fun garbage => kept (thrown.mpr garbage)
    exact .acknowledged clean rfl rfl filled ((isAcknowledgement_iff _).mp opens) rfl rfl
  · rw [recorded]
    have clean : ¬Garbage chunks poll := fun garbage => kept (thrown.mpr garbage)
    refine .counted clean rfl rfl ?_ rfl ?_
    · rintro ⟨filled, opens⟩
      rcases unanswered with empty | unanswered
      · exact filled empty
      · cases unanswered.symm.trans ((isAcknowledgement_iff _).mpr opens)
    · rw [polls]
      rfl

theorem reached_since (polls : Nat) :
    let fresh := start maxPolls maxResyncs
    ∃ last, LastGarbage chunks polls last ∧
      (fresh.reached chunks polls).bytes = (List.Ico last polls).flatMap chunks ∧
      (fresh.reached chunks polls).polls =
        (List.Ico last polls).countP fun poll => fresh.answer chunks poll ≠ .acknowledged := by
  intro fresh
  induction polls with
  | zero => exact ⟨0, ⟨Nat.le_refl 0, .inl rfl, by simp⟩, rfl, rfl⟩
  | succ polls ih =>
    obtain ⟨last, cut, collected, counted⟩ := ih
    cases reached_outcome maxPolls maxResyncs chunks polls with
    | discarded garbage emptied restarted =>
      refine ⟨polls + 1, .here garbage, ?_, ?_⟩
      · rw [emptied, List.Ico.self_empty]
        rfl
      · rw [restarted, List.Ico.self_empty]
        rfl
    | acknowledged clean grown _ _ _ same said =>
      refine ⟨last, cut.extend clean, ?_, ?_⟩
      · rw [grown, collected, List.Ico.succ_top cut.within]
        simp
      · rw [same, counted, List.Ico.succ_top cut.within]
        simp [fresh, said]
    | counted clean grown _ _ more said =>
      have pending : (start maxPolls maxResyncs).answer chunks polls ≠ .acknowledged := by
        rw [said]
        split <;> simp
      refine ⟨last, cut.extend clean, ?_, ?_⟩
      · rw [grown, collected, List.Ico.succ_top cut.within]
        simp
      · rw [more, counted, List.Ico.succ_top cut.within]
        simp [fresh, pending]

theorem reached_resyncs (polls : Nat) :
    ((start maxPolls maxResyncs).reached chunks polls).resyncs =
      (List.range polls).countP fun poll => Garbage chunks poll := by
  induction polls with
  | zero => rfl
  | succ polls ih =>
    rw [List.range_succ, List.countP_append, ← ih]
    cases reached_outcome maxPolls maxResyncs chunks polls with
    | discarded garbage _ _ resyncs =>
      rw [resyncs]
      simp [garbage]
    | acknowledged clean _ resyncs =>
      rw [resyncs]
      simp [clean]
    | counted clean _ resyncs =>
      rw [resyncs]
      simp [clean]

theorem reached_keeps (poll later : Nat)
    (collected : ((start maxPolls maxResyncs).reached chunks poll).bytes ≠ []) (behind : poll ≤ later) :
    ¬Garbage chunks later ∧
      ((start maxPolls maxResyncs).reached chunks poll).bytes <+:
        ((start maxPolls maxResyncs).reached chunks later).bytes := by
  have opened : ∃ earlier, earlier < poll ∧ (chunks earlier).head? = some 0xAA := by
    rcases reached_opened maxPolls maxResyncs chunks poll with
      ⟨nothing, _⟩ | ⟨_, opening⟩
    · exact absurd nothing collected
    · exact opening
  obtain ⟨earlier, sooner, opening⟩ := opened
  have clean : ∀ other, poll ≤ other → ¬Garbage chunks other := by
    intro other beyond garbage
    exact garbage.unopened earlier (Nat.le_of_lt (Nat.lt_of_lt_of_le sooner beyond)) opening
  refine ⟨clean later behind, ?_⟩
  induction later, behind using Nat.le_induction with
  | base => exact List.prefix_rfl
  | succ later behind ih =>
    cases reached_outcome maxPolls maxResyncs chunks later with
    | discarded garbage => exact absurd garbage (clean later behind)
    | acknowledged _ grown =>
      rw [grown]
      exact ih.trans (List.prefix_append ..)
    | counted _ grown =>
      rw [grown]
      exact ih.trans (List.prefix_append ..)

theorem answer_acknowledged_iff (poll : Nat) :
    (start maxPolls maxResyncs).answer chunks poll = .acknowledged ↔
      chunks poll ≠ [] ∧
        [0xAA, 0x00, 0x4F, 0x4B] <+: ((start maxPolls maxResyncs).reached chunks (poll + 1)).bytes := by
  cases reached_outcome maxPolls maxResyncs chunks poll with
  | discarded _ emptied _ _ said =>
    rw [said, emptied]
    split <;> simp
  | acknowledged _ _ _ filled opens _ said => exact iff_of_true said ⟨filled, opens⟩
  | counted _ _ _ waits _ said =>
    apply iff_of_false _ waits
    rw [said]
    split <;> simp

theorem answer_exhausted_iff (poll : Nat) :
    let now := (start maxPolls maxResyncs).reached chunks (poll + 1)
    let answer := (start maxPolls maxResyncs).answer chunks poll
    answer = .exhausted ↔
      Garbage chunks poll ∧ maxResyncs < now.resyncs ∨
        ¬Garbage chunks poll ∧ answer ≠ .acknowledged ∧ maxPolls ≤ now.polls := by
  intro now answer
  cases reached_outcome maxPolls maxResyncs chunks poll with
  | discarded garbage _ _ _ said =>
    have told : answer = if maxResyncs < now.resyncs then .exhausted else .pending := said
    rw [told]
    split
    · rename_i spent
      simp [garbage, spent]
    · rename_i within
      simp [within, garbage]
  | acknowledged clean _ _ _ _ _ said =>
    have told : answer = .acknowledged := said
    simp [told, clean]
  | counted clean _ _ _ _ said =>
    have told : answer = if maxPolls ≤ now.polls then .exhausted else .pending := said
    rw [told]
    split
    · rename_i spent
      simp [clean, spent]
    · rename_i within
      simp [within, clean]

end

structure Polled (maxPolls maxResyncs : Nat) (chunks : Nat → Bytes) (poll : Nat) (now : Collector) (answer : Progress) :
    Prop where
  since : ∃ last, LastGarbage chunks (poll + 1) last ∧
    now.bytes = (List.Ico last (poll + 1)).flatMap chunks ∧
    now.polls = (List.Ico last (poll + 1)).countP fun other =>
      (start maxPolls maxResyncs).answer chunks other ≠ .acknowledged
  opened : now.bytes = [] ∨ now.bytes.head? = some 0xAA
  resyncs : now.resyncs = (List.range (poll + 1)).countP fun other => Garbage chunks other
  acknowledged : answer = .acknowledged ↔ chunks poll ≠ [] ∧ [0xAA, 0x00, 0x4F, 0x4B] <+: now.bytes
  exhausted : answer = .exhausted ↔
    Garbage chunks poll ∧ maxResyncs < now.resyncs ∨
      ¬Garbage chunks poll ∧ answer ≠ .acknowledged ∧ maxPolls ≤ now.polls

theorem polled (maxPolls maxResyncs : Nat) (chunks : Nat → Bytes) (poll : Nat) :
    Polled maxPolls maxResyncs chunks poll ((start maxPolls maxResyncs).reached chunks (poll + 1))
      ((start maxPolls maxResyncs).answer chunks poll) where
  since := reached_since maxPolls maxResyncs chunks (poll + 1)
  opened := by
    rcases reached_opened maxPolls maxResyncs chunks (poll + 1) with ⟨nothing, _⟩ | ⟨opens, _⟩
    · exact .inl nothing
    · exact .inr opens
  resyncs := reached_resyncs maxPolls maxResyncs chunks (poll + 1)
  acknowledged := answer_acknowledged_iff maxPolls maxResyncs chunks poll
  exhausted := answer_exhausted_iff maxPolls maxResyncs chunks poll

-- What a collector comes to on a stream, told from the stream.
structure ToldFrom (fresh : Collector) (chunks : Nat → Bytes) : Prop where
  run : ∀ polls, fresh.run ((List.range polls).map chunks) =
    (List.range polls).map fun poll => (fresh.answer chunks poll, fresh.reached chunks (poll + 1))
  polled : ∀ poll, Polled fresh.maxPolls fresh.maxResyncs chunks poll (fresh.reached chunks (poll + 1))
    (fresh.answer chunks poll)
  kept : ∀ poll later, (fresh.reached chunks poll).bytes ≠ [] → poll ≤ later →
    ¬Garbage chunks later ∧ (fresh.reached chunks poll).bytes <+: (fresh.reached chunks later).bytes
  again : ∀ poll later, fresh.answer chunks poll = .acknowledged → poll ≤ later → chunks later ≠ [] →
    fresh.answer chunks later = .acknowledged

-- However long it is fed and whatever it has answered before.
theorem collected_from_stream (maxPolls maxResyncs : Nat) (chunks : Nat → Bytes) :
    ToldFrom (start maxPolls maxResyncs) chunks where
  run := run_reached _ chunks
  polled := polled maxPolls maxResyncs chunks
  kept := reached_keeps maxPolls maxResyncs chunks
  again := by
    intro poll later answered behind filled
    obtain ⟨_, opens⟩ := (answer_acknowledged_iff maxPolls maxResyncs chunks poll).mp answered
    have collected : ((start maxPolls maxResyncs).reached chunks (poll + 1)).bytes ≠ [] := by
      intro nothing
      rw [nothing] at opens
      cases List.prefix_nil.mp opens
    have kept := (reached_keeps maxPolls maxResyncs chunks (poll + 1) (later + 1) collected (Nat.succ_le_succ behind)).2
    exact (answer_acknowledged_iff maxPolls maxResyncs chunks later).mpr ⟨filled, opens.trans kept⟩

theorem answer_behind_noise :
    let chunks : Nat → Bytes := fun poll =>
      [[], [0x13, 0xAA], [0xAA, 0x00], [], [0x4F, 0x4B], [0x07]].getD poll []
    let fresh := start 3 1
    Garbage chunks 1 ∧ (fresh.reached chunks 3).bytes = [0xAA, 0x00] ∧ ¬Garbage chunks 5 ∧
      (fresh.reached chunks 6).bytes = [0xAA, 0x00, 0x4F, 0x4B, 0x07] ∧ (fresh.reached chunks 6).resyncs = 1 ∧
      fresh.answer chunks 4 = .acknowledged ∧ fresh.answer chunks 5 = .acknowledged := by
  intro chunks fresh
  have told : ToldFrom fresh chunks := collected_from_stream 3 1 chunks
  have garbage : Garbage chunks 1 := by decide
  have collected : (fresh.reached chunks 3).bytes ≠ [] := by decide
  have answered : fresh.answer chunks 4 = .acknowledged := (told.polled 4).acknowledged.mpr (by decide)
  have resyncs := (told.polled 5).resyncs
  have again := told.again 4 5 answered (by decide) (by decide)
  exact ⟨garbage, rfl, (told.kept 3 5 collected (by decide)).1, rfl, resyncs.trans (by decide), answered, again⟩

end Collector

end SerialPanel
