import Mathlib.Data.Nat.Find
import SerialPanel.Proofs.Collecting
namespace SerialPanel

namespace Collector

structure EndsAt (collector : Collector) (chunks : Nat → Bytes) (last : Nat) : Prop where
  undecided : ∀ poll, poll < last → collector.answer chunks poll = .pending
  decided : collector.answer chunks last ≠ .pending

-- What an open attempt keeps, after a number of polls: every poll was either counted
-- since the last resync or is covered by the full count that a resync gave up. A count
-- goes to one even on a budget of zero, since polls are counted before they are compared.
structure Covered (maxPolls maxResyncs : Nat) (collector : Collector) (polls : Nat) : Prop where
  counted : collector.polls < max maxPolls 1
  resynced : collector.resyncs ≤ maxResyncs
  spent : polls ≤ collector.resyncs * max maxPolls 1 + collector.polls

section

variable {maxPolls maxResyncs : Nat} {chunks : Nat → Bytes}

theorem Covered.step {polls : Nat} {before after : Collector}
    (covered : Covered maxPolls maxResyncs before polls)
    (outcome : Outcome maxPolls maxResyncs chunks poll before after .pending) :
    Covered maxPolls maxResyncs after (polls + 1) := by
  obtain ⟨counted, resynced, spent⟩ := covered
  cases outcome with
  | discarded _ _ restarted resyncs said =>
    have within : ¬maxResyncs < after.resyncs := by
      intro beyond
      rw [if_pos beyond] at said
      cases said
    have closed : after.resyncs * max maxPolls 1 = before.resyncs * max maxPolls 1 + max maxPolls 1 := by
      rw [resyncs, Nat.succ_mul]
    refine ⟨?_, Nat.le_of_not_lt within, ?_⟩
    · rw [restarted]
      omega
    · rw [closed, restarted]
      omega
  | acknowledged _ _ _ _ _ _ said => cases said
  | counted _ _ resyncs _ more said =>
    have within : ¬maxPolls ≤ after.polls := by
      intro beyond
      rw [if_pos beyond] at said
      cases said
    rw [← resyncs] at resynced spent
    exact ⟨by omega, resynced, by omega⟩

theorem reached_covered {polls : Nat}
    (undecided : ∀ poll, poll < polls → (start maxPolls maxResyncs).answer chunks poll = .pending) :
    Covered maxPolls maxResyncs ((start maxPolls maxResyncs).reached chunks polls) polls := by
  induction polls with
  | zero => exact ⟨Nat.lt_of_lt_of_le Nat.zero_lt_one (Nat.le_max_right _ _), Nat.zero_le _, Nat.zero_le _⟩
  | succ polls ih =>
    have before := ih fun poll within => undecided poll (Nat.lt_succ_of_lt within)
    have outcome := reached_outcome maxPolls maxResyncs chunks polls
    rw [undecided polls (Nat.lt_succ_self polls)] at outcome
    exact before.step outcome

theorem Covered.bound {collector : Collector} {polls : Nat}
    (covered : Covered maxPolls maxResyncs collector polls) : polls + 1 ≤ (maxResyncs + 1) * max maxPolls 1 := by
  obtain ⟨counted, resynced, spent⟩ := covered
  calc polls + 1 ≤ collector.resyncs * max maxPolls 1 + max maxPolls 1 := by omega
    _ ≤ maxResyncs * max maxPolls 1 + max maxPolls 1 :=
      Nat.add_le_add_right (Nat.mul_le_mul_right _ resynced) _
    _ = (maxResyncs + 1) * max maxPolls 1 := (Nat.succ_mul _ _).symm

theorem EndsAt.covered {last : Nat} (ends : (start maxPolls maxResyncs).EndsAt chunks last) :
    Covered maxPolls maxResyncs ((start maxPolls maxResyncs).reached chunks last) last :=
  reached_covered ends.undecided

theorem endsAt_exists (maxPolls maxResyncs : Nat) (chunks : Nat → Bytes) :
    ∃ last, (start maxPolls maxResyncs).EndsAt chunks last := by
  have decides : ∃ poll, (start maxPolls maxResyncs).answer chunks poll ≠ .pending := by
    by_contra endless
    have undecided : ∀ poll, (start maxPolls maxResyncs).answer chunks poll = .pending := by
      intro poll
      by_contra decided
      exact endless ⟨poll, decided⟩
    have covered : Covered maxPolls maxResyncs _ ((maxResyncs + 1) * max maxPolls 1) :=
      reached_covered fun poll _ => undecided poll
    exact Nat.not_succ_le_self _ covered.bound
  exact ⟨Nat.find decides, fun poll sooner => not_not.mp (Nat.find_min decides sooner), Nat.find_spec decides⟩

theorem EndsAt.counters {last poll : Nat} (ends : (start maxPolls maxResyncs).EndsAt chunks last)
    (within : poll ≤ last) :
    ((start maxPolls maxResyncs).reached chunks (poll + 1)).polls ≤ max maxPolls 1 ∧
      ((start maxPolls maxResyncs).reached chunks (poll + 1)).resyncs ≤ maxResyncs + 1 := by
  obtain ⟨counted, resynced, _⟩ : Covered maxPolls maxResyncs ((start maxPolls maxResyncs).reached chunks poll) poll :=
    reached_covered fun earlier sooner => ends.undecided earlier (Nat.lt_of_lt_of_le sooner within)
  cases reached_outcome maxPolls maxResyncs chunks poll with
  | discarded _ _ restarted resyncs => omega
  | acknowledged _ _ resyncs _ _ uncounted => omega
  | counted _ _ resyncs _ more => omega

theorem EndsAt.clean {last : Nat} (ends : (start maxPolls maxResyncs).EndsAt chunks last)
    (clean : ∀ poll, poll < last → ¬((start maxPolls maxResyncs).reached chunks poll).Discards (chunks poll)) :
    last + 1 ≤ max maxPolls 1 := by
  have unbroken : ((start maxPolls maxResyncs).reached chunks last).resyncs = 0 := by
    rw [reached_resyncs, List.countP_eq_zero]
    intro poll inside
    rw [decide_eq_true_iff, ← discards_iff maxPolls maxResyncs]
    exact clean poll (List.mem_range.mp inside)
  obtain ⟨counted, _, spent⟩ := ends.covered
  rw [unbroken] at spent
  omega

end

-- The stream that holds an attempt longest: silence up to the last poll of a count,
-- and there a byte of noise.
def lateNoise (maxPolls poll : Nat) : Bytes := if maxPolls ∣ poll + 1 then [0x00] else []

theorem mod_succ_of_not_dvd {divisor n : Nat} (between : ¬divisor ∣ n + 1) : (n + 1) % divisor = n % divisor + 1 := by
  have quotient := Nat.succ_div_of_not_dvd between
  have whole := Nat.div_add_mod (n + 1) divisor
  rw [quotient] at whole
  have before := Nat.div_add_mod n divisor
  omega

theorem reached_lateNoise (maxPolls maxResyncs polls : Nat) :
    (start maxPolls maxResyncs).reached (lateNoise maxPolls) polls =
      { maxPolls, maxResyncs, polls := polls % maxPolls, resyncs := polls / maxPolls } := by
  induction polls with
  | zero => simp [reached, start]
  | succ polls ih =>
    rw [reached, ih, lateNoise]
    by_cases due : maxPolls ∣ polls + 1
    · rw [if_pos due, Nat.succ_div_of_dvd due, Nat.mod_eq_zero_of_dvd due]
      rfl
    · rw [if_neg due, Nat.succ_div_of_not_dvd due, mod_succ_of_not_dvd due]
      rfl

theorem answer_lateNoise {maxPolls maxResyncs poll : Nat} (positive : 1 ≤ maxPolls) :
    (start maxPolls maxResyncs).answer (lateNoise maxPolls) poll =
      if (maxResyncs + 1) * maxPolls ≤ poll + 1 ∧ maxPolls ∣ poll + 1 then .exhausted else .pending := by
  rw [answer, reached_lateNoise, lateNoise]
  by_cases due : maxPolls ∣ poll + 1
  · have spent : maxResyncs < poll / maxPolls + 1 ↔ (maxResyncs + 1) * maxPolls ≤ poll + 1 := by
      rw [← Nat.succ_div_of_dvd due, ← Nat.succ_le_iff, Nat.le_div_iff_mul_le positive]
    rw [if_pos due]
    simp only [due, and_true, ← spent]
    rfl
  · have room : ¬maxPolls ≤ poll % maxPolls + 1 := by
      rw [← mod_succ_of_not_dvd due, Nat.not_le]
      exact Nat.mod_lt _ positive
    rw [if_neg due, if_neg fun last => due last.2]
    exact if_neg room

theorem lateNoise_endsAt {maxPolls : Nat} (positive : 1 ≤ maxPolls) (maxResyncs : Nat) :
    (start maxPolls maxResyncs).EndsAt (lateNoise maxPolls) ((maxResyncs + 1) * maxPolls - 1) := by
  have room : 0 < (maxResyncs + 1) * maxPolls := Nat.mul_pos (Nat.succ_pos _) positive
  constructor
  · intro poll sooner
    rw [answer_lateNoise positive, if_neg]
    omega
  · have whole : (maxResyncs + 1) * maxPolls - 1 + 1 = (maxResyncs + 1) * maxPolls := by omega
    rw [answer_lateNoise positive, whole, if_pos ⟨Nat.le_refl _, Nat.dvd_mul_left _ _⟩]
    simp

-- Every attempt ends, whatever is drained: after at most so many polls, and with
-- counters of 32 bits that have not run over. One resync below the largest number has
-- to be left for that. The bound is met by a stream of its own for each pair of budgets.
theorem attempt_bounded (maxPolls maxResyncs : UInt32) (countable : maxResyncs.toNat < 0xFFFFFFFF) :
    (∀ chunks : Nat → Bytes,
      let fresh := start maxPolls.toNat maxResyncs.toNat
      ∃ last, fresh.EndsAt chunks last ∧ last + 1 ≤ (maxResyncs.toNat + 1) * max maxPolls.toNat 1 ∧
        (∀ poll, poll ≤ last →
          (fresh.reached chunks (poll + 1)).polls ≤ 0xFFFFFFFF ∧
            (fresh.reached chunks (poll + 1)).resyncs ≤ 0xFFFFFFFF) ∧
        ((∀ poll, poll ≤ last → ¬(fresh.reached chunks poll).Discards (chunks poll)) →
          last + 1 ≤ max maxPolls.toNat 1)) ∧
    (1 ≤ maxPolls.toNat →
      ∃ chunks last, (start maxPolls.toNat maxResyncs.toNat).EndsAt chunks last ∧
        last + 1 = (maxResyncs.toNat + 1) * max maxPolls.toNat 1) := by
  constructor
  · intro chunks fresh
    obtain ⟨last, ends⟩ := endsAt_exists maxPolls.toNat maxResyncs.toNat chunks
    refine ⟨last, ends, ends.covered.bound, fun poll within => ?_, fun clean => ?_⟩
    · have size := maxPolls.toNat_lt
      obtain ⟨polls, resyncs⟩ := ends.counters within
      exact ⟨polls.trans (by omega), resyncs.trans (by omega)⟩
    · exact ends.clean fun poll sooner => clean poll (Nat.le_of_lt sooner)
  · intro positive
    refine ⟨lateNoise maxPolls.toNat, _, lateNoise_endsAt positive maxResyncs.toNat, ?_⟩
    rw [Nat.max_eq_left positive]
    exact Nat.sub_add_cancel (Nat.mul_pos (Nat.succ_pos _) positive)

theorem two_counts_spent :
    (∃ chunks last, (start 2 1).EndsAt chunks last ∧ last + 1 = 4) ∧
      ∃ last, (start 2 1).EndsAt (fun _ => []) last ∧ last + 1 ≤ 2 := by
  obtain ⟨every, longest⟩ := attempt_bounded 2 1 (by decide)
  obtain ⟨last, ends, _, _, silent⟩ := every fun _ => []
  exact ⟨longest (by decide), last, ends, silent fun _ _ discards => discards.1 rfl⟩

theorem feed_reached {collector : Collector} {chunks : Nat → Bytes} {polls : Nat}
    (undecided : ∀ poll, poll < polls → collector.answer chunks poll = .pending) :
    collector.feed ((List.range polls).map chunks) = (.pending, collector.reached chunks polls) := by
  induction polls with
  | zero => rfl
  | succ polls ih =>
    have before := ih fun poll within => undecided poll (Nat.lt_succ_of_lt within)
    rw [List.range_succ, List.map_append, List.map_singleton, feed_snoc (by rw [before]), before]
    exact Prod.ext (undecided polls (Nat.lt_succ_self polls)) rfl

theorem feed_open {collector : Collector} {chunks : Nat → Bytes} {polls : Nat}
    (undecided : (collector.feed ((List.range polls).map chunks)).1 = .pending) :
    ∀ poll, poll < polls → collector.answer chunks poll = .pending := by
  induction polls with
  | zero => exact fun poll impossible => absurd impossible (Nat.not_lt_zero poll)
  | succ polls ih =>
    rw [List.range_succ, List.map_append, List.map_singleton] at undecided
    have before := ih (feed_front_open undecided)
    rw [feed_snoc (by rw [feed_reached before]), feed_reached before] at undecided
    intro poll within
    rcases Nat.lt_succ_iff_lt_or_eq.mp within with sooner | rfl
    · exact before poll sooner
    · exact undecided

theorem feed_covered {maxPolls maxResyncs : Nat} {front : List Bytes}
    (undecided : ((start maxPolls maxResyncs).feed front).1 = .pending) :
    Covered maxPolls maxResyncs ((start maxPolls maxResyncs).feed front).2 front.length := by
  have stream : (List.range front.length).map (fun poll => front.getD poll []) = front := by
    apply List.ext_getElem
    · simp
    · intro poll _ inside
      simp [inside]
  have every := undecided
  rw [← stream] at every
  have pending := feed_open every
  have fed := feed_reached pending
  rw [stream] at fed
  rw [fed]
  exact reached_covered pending

end Collector

namespace Link

variable {σ : Type} [Line σ] {link : Link σ}

theorem Drained.covered {drained : List Bytes} (polled : link.Drained drained) :
    Collector.Covered link.settings.maxPolls.toNat link.settings.maxResyncs.toNat
      (link.collector.feed drained.dropLast).2 drained.dropLast.length :=
  Collector.feed_covered polled.undecided

theorem Drained.bounded {drained : List Bytes} (polled : link.Drained drained) :
    drained.length ≤ (link.settings.maxResyncs.toNat + 1) * max link.settings.maxPolls.toNat 1 := by
  have covered := polled.covered.bound
  rw [List.length_dropLast] at covered
  omega

theorem handshake_bounded (sent : (link.begun.transmit [Opcode.handshake]).1 = .ok ()) :
    ∃ answered polls, polls ≤ (link.settings.maxResyncs.toNat + 1) * max link.settings.maxPolls.toNat 1 ∧
      link.handshake =
        (.ok answered, { link.opened.polled polls with
          state := if answered then .ready else link.state.attempted }) := by
  obtain ⟨drained, visited, outcome⟩ := handshake_exact sent
  exact ⟨_, drained.length, visited.bounded, outcome⟩

end Link

end SerialPanel
