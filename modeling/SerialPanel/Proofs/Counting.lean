import SerialPanel.Proofs.Exhaustion
namespace SerialPanel

namespace Collector

section

variable {maxPolls maxResyncs : Nat} {chunks : Nat → Bytes}

theorem EndsAt.overdrawn_last {last poll : Nat} (ends : (start maxPolls maxResyncs).EndsAt chunks last)
    (within : poll ≤ last)
    (beyond : maxResyncs < ((start maxPolls maxResyncs).reached chunks (poll + 1)).resyncs) : poll = last := by
  rcases Nat.lt_or_eq_of_le within with sooner | same
  · have covered : Covered maxPolls maxResyncs ((start maxPolls maxResyncs).reached chunks (poll + 1)) (poll + 1) := by
      apply reached_covered
      intro earlier before
      exact ends.undecided earlier (Nat.lt_of_lt_of_le before sooner)
    exact absurd covered.resynced (Nat.not_le_of_lt beyond)
  · exact same

theorem EndsAt.resyncs_outgrow_iff {last poll : Nat} (ends : (start maxPolls maxResyncs).EndsAt chunks last)
    (within : poll ≤ last) (budget : maxResyncs ≤ 0xFFFFFFFF) :
    0xFFFFFFFF < ((start maxPolls maxResyncs).reached chunks (poll + 1)).resyncs ↔
      maxResyncs = 0xFFFFFFFF ∧ poll = last ∧
        ((List.range (last + 1)).countP fun other => Garbage chunks other) = 0x100000000 := by
  have counted := reached_resyncs maxPolls maxResyncs chunks (poll + 1)
  constructor
  · intro beyond
    have most := (ends.counters within).2
    have same : poll = last := by
      apply ends.overdrawn_last within
      exact Nat.lt_of_le_of_lt budget beyond
    subst same
    rw [← counted]
    refine ⟨?_, rfl, ?_⟩
    · omega
    · omega
  · rintro ⟨_, rfl, full⟩
    rw [counted, full]
    exact Nat.lt_succ_self _

theorem lateNoise_overdraws (positive : 1 ≤ maxPolls) :
    ((start maxPolls maxResyncs).reached (lateNoise maxPolls) ((maxResyncs + 1) * maxPolls)).resyncs =
      maxResyncs + 1 := by
  rw [reached_lateNoise]
  exact Nat.mul_div_cancel _ positive

theorem lateNoise_outgrows (positive : 1 ≤ maxPolls) :
    ∃ last, (start maxPolls 0xFFFFFFFF).EndsAt (lateNoise maxPolls) last ∧
      ((start maxPolls 0xFFFFFFFF).reached (lateNoise maxPolls) (last + 1)).resyncs = 0x100000000 := by
  refine ⟨_, lateNoise_endsAt positive 0xFFFFFFFF, ?_⟩
  rw [Nat.sub_add_cancel (Nat.mul_pos (Nat.succ_pos _) positive)]
  exact lateNoise_overdraws positive

end

-- Under settings that pass their check the count of polls stays in 32 bits. That of
-- the resyncs leaves them under the largest budget only, with the last poll of an
-- attempt; and under that budget some stream makes it leave them.
theorem counters_contained_iff (settings : Settings) (accepted : settings.check = .ok ()) :
    let fresh := start settings.link.maxPolls.toNat settings.link.maxResyncs.toNat
    (∀ chunks last poll, fresh.EndsAt chunks last → poll ≤ last →
      (fresh.reached chunks (poll + 1)).polls ≤ 0xFFFFFFFF ∧
        (0xFFFFFFFF < (fresh.reached chunks (poll + 1)).resyncs ↔
          settings.link.maxResyncs.toNat = 0xFFFFFFFF ∧ poll = last ∧
            ((List.range (last + 1)).countP fun other => Garbage chunks other) = 0x100000000)) ∧
    ((∀ chunks last poll, fresh.EndsAt chunks last → poll ≤ last →
        (fresh.reached chunks (poll + 1)).polls ≤ 0xFFFFFFFF ∧
          (fresh.reached chunks (poll + 1)).resyncs ≤ 0xFFFFFFFF) ↔
      settings.link.maxResyncs.toNat ≠ 0xFFFFFFFF) := by
  obtain ⟨_, _, polling⟩ := settings.check_exact.mp accepted
  have positive : 1 ≤ settings.link.maxPolls.toNat := by
    apply Nat.one_le_iff_ne_zero.mpr
    intro zero
    exact polling (UInt32.toNat_inj.mp zero)
  have polls : ∀ chunks last poll,
      (start settings.link.maxPolls.toNat settings.link.maxResyncs.toNat).EndsAt chunks last → poll ≤ last →
        ((start settings.link.maxPolls.toNat settings.link.maxResyncs.toNat).reached chunks (poll + 1)).polls ≤
          0xFFFFFFFF := by
    intro chunks last poll ends within
    apply (ends.counters within).1.trans
    rw [Nat.max_eq_left positive]
    exact Nat.le_of_lt_succ settings.link.maxPolls.toNat_lt
  have resyncs := fun chunks last poll
      (ends : (start settings.link.maxPolls.toNat settings.link.maxResyncs.toNat).EndsAt chunks last)
      (within : poll ≤ last) =>
    ends.resyncs_outgrow_iff within (Nat.le_of_lt_succ settings.link.maxResyncs.toNat_lt)
  refine ⟨fun chunks last poll ends within => ⟨polls _ _ _ ends within, resyncs _ _ _ ends within⟩, ?_, ?_⟩
  · intro contained largest
    rw [largest] at contained
    obtain ⟨last, ends, outgrown⟩ := lateNoise_outgrows positive
    have within := (contained _ last last ends (Nat.le_refl last)).2
    rw [outgrown] at within
    exact absurd within (by decide)
  · intro smaller chunks last poll ends within
    refine ⟨polls _ _ _ ends within, ?_⟩
    apply Nat.le_of_not_lt
    intro beyond
    exact smaller ((resyncs _ _ _ ends within).mp beyond).1

theorem stock_counters_contained :
    Settings.standard.check = .ok () ∧
      ∀ chunks last poll, (start 26 26).EndsAt chunks last → poll ≤ last →
        ((start 26 26).reached chunks (poll + 1)).polls ≤ 0xFFFFFFFF ∧
          ((start 26 26).reached chunks (poll + 1)).resyncs ≤ 0xFFFFFFFF := by
  have accepted : Settings.standard.check = .ok () := rfl
  exact ⟨accepted, (counters_contained_iff Settings.standard accepted).2.mpr (by decide)⟩

theorem ceaseless_pending {maxResyncs poll : Nat} (sooner : poll < maxResyncs) :
    (start 1 maxResyncs).answer (lateNoise 1) poll = .pending := by
  rw [answer_lateNoise (Nat.le_refl 1), if_neg]
  omega

theorem ceaseless_resyncs (maxResyncs polls : Nat) :
    ((start 1 maxResyncs).reached (lateNoise 1) polls).resyncs = polls := by
  rw [reached_lateNoise]
  exact Nat.div_one polls

theorem ceaseless_next (maxResyncs polls : Nat) :
    (((start 1 maxResyncs).reached (lateNoise 1) polls).record (lateNoise 1 polls)).2.resyncs = polls + 1 :=
  ceaseless_resyncs maxResyncs (polls + 1)

-- With noise in every poll the largest budget keeps an attempt open for as long as its
-- word can count resyncs, and then asks for one more.
theorem ceaseless_noise_outgrows :
    let settings : Settings := { link := { maxPolls := 1, maxResyncs := 0xFFFFFFFF } }
    let noise : Nat → Bytes := fun _ => [0x00]
    let fresh := start settings.link.maxPolls.toNat settings.link.maxResyncs.toNat
    settings.check = .ok () ∧ (∀ poll, poll < 0xFFFFFFFF → fresh.answer noise poll = .pending) ∧
      (fresh.reached noise 0xFFFFFFFF).resyncs = 0xFFFFFFFF ∧
      ((fresh.reached noise 0xFFFFFFFF).record (noise 0xFFFFFFFF)).2.resyncs = 0xFFFFFFFF + 1 := by
  intro settings noise fresh
  have late : noise = lateNoise 1 := by
    funext poll
    exact (if_pos (Nat.one_dvd _)).symm
  have budget : fresh = start 1 0xFFFFFFFF := rfl
  rw [late, budget]
  refine ⟨rfl, ?_, ceaseless_resyncs _ _, ceaseless_next 0xFFFFFFFF 0xFFFFFFFF⟩
  intro poll sooner
  exact ceaseless_pending sooner

end Collector

end SerialPanel
