import SerialPanel.Proofs.Arrival
import SerialPanel.Proofs.Exhaustion
import SerialPanel.Proofs.Observation
namespace SerialPanel

namespace Span

def total (span : Span) : Nat := span.seconds * 1000000000 + span.nanos

def ofTotal? (nanos : Nat) : Option Span := carried? 0 nanos

theorem ofTotal?_eq_none_iff (nanos : Nat) : ofTotal? nanos = none ↔ 0x10000000000000000 * 1000000000 ≤ nanos := by
  unfold ofTotal? carried?
  rw [dite_eq_right_iff]
  simp
  omega

theorem total_ofTotal? {nanos : Nat} {span : Span} (made : ofTotal? nanos = some span) : span.total = nanos := by
  unfold ofTotal? carried? at made
  split at made
  · cases made
    unfold total
    simp only
    omega
  · cases made

theorem carried?_eq (seconds nanos : Nat) : carried? seconds nanos = ofTotal? (seconds * 1000000000 + nanos) := by
  unfold ofTotal? carried?
  have whole : (seconds * 1000000000 + nanos) / 1000000000 = seconds + nanos / 1000000000 := by omega
  have rest : (seconds * 1000000000 + nanos) % 1000000000 = nanos % 1000000000 := by omega
  simp only [whole, rest, Nat.zero_add]

theorem add?_eq (left right : Span) : left.add? right = ofTotal? (left.total + right.total) := by
  have both : (left.seconds + right.seconds) * 1000000000 + (left.nanos + right.nanos) = left.total + right.total := by
    unfold total
    omega
  unfold add?
  rw [carried?_eq, both]

theorem times?_eq (span : Span) (count : Nat) : span.times? count = ofTotal? (span.total * count) := by
  unfold times? total
  rw [carried?_eq, Nat.add_mul, Nat.mul_right_comm]

theorem total_ofMillis (millis : UInt64) : (ofMillis millis).total = millis.toNat * 1000000 := by
  unfold ofMillis total
  simp only
  omega

theorem ofTotal?_add (left : Span) (nanos : Nat) :
    (ofTotal? nanos).bind left.add? = ofTotal? (left.total + nanos) := by
  cases made : ofTotal? nanos with
  | none =>
    have beyond := (ofTotal?_eq_none_iff nanos).mp made
    exact ((ofTotal?_eq_none_iff _).mpr (Nat.le_trans beyond (Nat.le_add_left _ _))).symm
  | some span =>
    rw [Option.bind_some, add?_eq, total_ofTotal? made]

theorem add?_comm (left right : Span) : left.add? right = right.add? left := by
  rw [add?_eq, add?_eq, Nat.add_comm]

end Span

namespace LinkSettings

def wholeAttempt (settings : LinkSettings) : Nat :=
  settings.handshakeSettle.toNat + settings.pollInterval.toNat * settings.maxPolls.toNat + settings.frameDelay.toNat

theorem budget?_eq (settings : LinkSettings) : settings.budget? = Span.ofTotal? (settings.wholeAttempt * 1000000) := by
  let settle := Span.ofMillis settings.handshakeSettle
  let interval := Span.ofMillis settings.pollInterval
  let delay := Span.ofMillis settings.frameDelay
  have whole : delay.total + (settle.total + interval.total * settings.maxPolls.toNat) =
      settings.wholeAttempt * 1000000 := by
    unfold wholeAttempt
    rw [Span.total_ofMillis, Span.total_ofMillis, Span.total_ofMillis, Nat.mul_right_comm]
    omega
  have turned : (fun waiting : Span => waiting.add? delay) = delay.add? := funext fun waiting => waiting.add?_comm delay
  calc settings.budget?
      = (((interval.times? settings.maxPolls.toNat).bind settle.add?).bind fun waiting => waiting.add? delay) :=
        (Option.bind_assoc ..).symm
    _ = (Span.ofTotal? (settle.total + interval.total * settings.maxPolls.toNat)).bind delay.add? := by
        rw [interval.times?_eq, Span.ofTotal?_add, turned]
    _ = Span.ofTotal? (settings.wholeAttempt * 1000000) := by
        rw [Span.ofTotal?_add, whole]

theorem budget?_eq_none_iff (settings : LinkSettings) :
    settings.budget? = none ↔ 1000 * 0x10000000000000000 ≤ settings.wholeAttempt := by
  rw [budget?_eq, Span.ofTotal?_eq_none_iff]
  omega

end LinkSettings

structure Span.Lasts (span : Span) (millis : Nat) : Prop where
  seconds : span.seconds = millis / 1000
  nanos : span.nanos = millis % 1000 * 1000000
  proper : span.nanos < 1000000000
  millis : span.toMillis = millis

theorem LinkSettings.budget?_lasts {settings : LinkSettings} {span : Span} (made : settings.budget? = some span) :
    span.Lasts settings.wholeAttempt := by
  rw [budget?_eq] at made
  have total := Span.total_ofTotal? made
  have within := span.nanos_lt
  unfold Span.total at total
  have seconds : span.seconds = settings.wholeAttempt / 1000 := by omega
  have nanos : span.nanos = settings.wholeAttempt % 1000 * 1000000 := by omega
  refine ⟨seconds, nanos, within, ?_⟩
  rw [Span.toMillis, seconds, nanos, Nat.mul_div_cancel _ (by decide), Nat.mul_comm]
  exact Nat.div_add_mod settings.wholeAttempt 1000

structure Stopwatch (σ : Type) where
  line : σ
  slept : Nat

def Line.waited : List Line.Visit → Nat
  | [] => 0
  | .write _ :: later => Line.waited later
  | .wait millis :: later => millis + Line.waited later

namespace Stopwatch

variable {σ : Type} [Line σ]

instance : Line (Stopwatch σ) where
  write watch bytes :=
    let written := Line.write watch.line bytes
    ⟨written.result, written.arrived, ⟨written.line, watch.slept⟩⟩
  wait watch millis := ((Line.wait watch.line millis).1, ⟨(Line.wait watch.line millis).2, watch.slept + millis⟩)

theorem line_follows : Line.Follows (Stopwatch.line : Stopwatch σ → σ) := ⟨fun _ _ => rfl, fun _ _ => rfl⟩

theorem slept_visits (watch : Stopwatch σ) (visits : List Line.Visit) :
    (visits.foldl Line.visit watch).slept = watch.slept + Line.waited visits := by
  induction visits generalizing watch with
  | nil => rfl
  | cons visit later ih =>
    rw [List.foldl_cons, ih]
    cases visit with
    | write bytes => rfl
    | wait millis => exact Nat.add_assoc ..

end Stopwatch

theorem Timetable.idle (visits : List Line.Visit) : Line.arrivals (⟨[]⟩ : Timetable) visits = [] := by
  induction visits with
  | nil => rfl
  | cons visit later ih =>
    cases visit with
    | write bytes => exact ih
    | wait millis => exact ih

namespace Collector

theorem record_resyncs (collector : Collector) (data : Bytes) :
    collector.resyncs ≤ (collector.record data).2.resyncs ∧
      (collector.record data).2.resyncs ≤ collector.resyncs + 1 := by
  rcases collector.record_cases data with ⟨_, recorded⟩ | ⟨_, _, _, recorded⟩ | ⟨_, _, recorded⟩
  · rw [recorded]
    exact ⟨Nat.le_succ _, Nat.le_refl _⟩
  · rw [recorded]
    exact ⟨Nat.le_refl _, Nat.le_succ _⟩
  · rw [recorded]
    exact ⟨Nat.le_refl _, Nat.le_succ _⟩

theorem feed_silent_resyncs {collector : Collector} {chunks : List Bytes} (silent : ∀ chunk ∈ chunks, chunk = []) :
    (collector.feed chunks).2.resyncs = collector.resyncs := by
  induction chunks generalizing collector with
  | nil => rfl
  | cons chunk later ih =>
    obtain ⟨rfl, others⟩ := List.forall_mem_cons.mp silent
    by_cases step : (collector.record []).1 = .pending
    · rw [feed_cons_open step, ih others]
      rfl
    · rw [feed_cons_decided step]
      rfl

theorem feed_silent_open {collector : Collector} {chunks : List Bytes} (silent : ∀ chunk ∈ chunks, chunk = [])
    (room : collector.polls + chunks.length < collector.maxPolls) : (collector.feed chunks).1 = .pending := by
  induction chunks generalizing collector with
  | nil => rfl
  | cons chunk later ih =>
    obtain ⟨rfl, others⟩ := List.forall_mem_cons.mp silent
    rw [List.length_cons] at room
    have step : (collector.record []).1 = .pending := if_neg (by omega)
    have next : (collector.record []).2 = { collector with polls := collector.polls + 1 } := rfl
    rw [feed_cons_open step, next]
    apply ih others
    change collector.polls + 1 + later.length < collector.maxPolls
    omega

end Collector

namespace Link

section

variable {σ : Type}

def timed (link : Link σ) : Link (Stopwatch σ) := { link with line := ⟨link.line, 0⟩ }

theorem visits_waited (link : Link σ) (polls : Nat) :
    Line.waited (link.visits polls) =
      link.settings.frameDelay.toNat + link.settings.handshakeSettle.toNat +
        polls * link.settings.pollInterval.toNat := by
  have polling : ∀ interval, Line.waited (List.replicate polls (.wait interval)) = polls * interval := by
    intro interval
    induction polls with
    | zero => exact (Nat.zero_mul interval).symm
    | succ polls ih =>
      rw [List.replicate_succ, Line.waited, ih, Nat.succ_mul, Nat.add_comm]
  change _ + (_ + Line.waited (List.replicate polls (.wait _))) = _
  rw [polling, Nat.add_assoc]

end

variable {σ : Type} [Line σ] {link : Link σ}

theorem Drained.resyncs {drained : List Bytes} (polled : link.Drained drained) :
    (link.collector.feed drained.dropLast).2.resyncs ≤ (link.collector.feed drained).2.resyncs ∧
      (link.collector.feed drained).2.resyncs ≤ (link.collector.feed drained.dropLast).2.resyncs + 1 := by
  have filled := List.length_pos_iff.mp polled.positive
  have step := (link.collector.feed drained.dropLast).2.record_resyncs (drained.getLast filled)
  rwa [← Collector.feed_snoc polled.undecided, List.dropLast_append_getLast] at step

theorem Drained.clean {drained : List Bytes} (polled : link.Drained drained)
    (clean : (link.collector.feed drained).2.resyncs = 0) : drained.length ≤ max link.settings.maxPolls.toNat 1 := by
  obtain ⟨counted, _, spent⟩ := polled.covered
  have quiet : (link.collector.feed drained.dropLast).2.resyncs = 0 := Nat.le_zero.mp (clean ▸ polled.resyncs.1)
  rw [quiet, List.length_dropLast] at spent
  omega

theorem Drained.silent {drained : List Bytes} (polled : link.Drained drained)
    (silent : ∀ chunk ∈ drained, chunk = []) : drained.length = max link.settings.maxPolls.toNat 1 := by
  have most := polled.clean (Collector.feed_silent_resyncs silent)
  have positive := polled.positive
  by_contra fewer
  apply polled.decided
  apply Collector.feed_silent_open silent
  change 0 + drained.length < link.settings.maxPolls.toNat
  omega

def slept (link : Link σ) : Nat := link.timed.handshake.2.line.slept

theorem handshake_timed (link : Link σ) :
    link.handshake = (link.timed.handshake.1, link.timed.handshake.2.seen Stopwatch.line) :=
  handshake_seen Stopwatch.line_follows link.timed

theorem handshake_slept {answered : Bool} (completed : link.handshake.1 = .ok answered) :
    ∃ drained, link.Drained drained ∧
      link.slept = link.settings.frameDelay.toNat + link.settings.handshakeSettle.toNat +
        drained.length * link.settings.pollInterval.toNat := by
  rw [handshake_timed] at completed
  cases sent : (link.timed.begun.transmit [Opcode.handshake]).1 with
  | error fault =>
    rw [handshake_failed sent] at completed
    cases completed
  | ok _ =>
    obtain ⟨drained, polled, outcome⟩ := handshake_exact sent
    have settings : link.timed.opened.settings = link.timed.settings := link.timed.opened_keeps.settings
    refine ⟨drained, polled.seen Stopwatch.line_follows, ?_⟩
    unfold slept
    rw [outcome]
    change (link.timed.opened.polled drained.length).line.slept = _
    rw [polled_line, settings, (opened_visited sent).line, ← List.foldl_append, Stopwatch.slept_visits]
    exact (Nat.zero_add _).trans (link.timed.visits_waited drained.length)

theorem begun_sent (accepts : Line.Accepts link.line) : (link.begun.transmit [Opcode.handshake]).1 = .ok () :=
  (transmit_accepted (show Line.Accepts link.begun.line from accepts) [Opcode.handshake]).1

theorem handshake_completes (sent : (link.begun.transmit [Opcode.handshake]).1 = .ok ()) :
    ∃ answered, link.handshake.1 = .ok answered := by
  obtain ⟨drained, _, outcome⟩ := handshake_exact sent
  exact ⟨_, congrArg Prod.fst outcome⟩

theorem Drained.flatten {drained : List Bytes} (polled : link.Drained drained)
    (sent : (link.begun.transmit [Opcode.handshake]).1 = .ok ()) : drained.flatten = link.waiting drained.length := by
  rw [← opened_chunks sent polled.positive, ← polled.chunks]

-- What an attempt sleeps that drained these chunks. One resync below the largest number
-- has to be left, so that the count of them does not run over.
structure Slept (link : Link σ) (drained : List Bytes) : Prop where
  polled : link.Drained drained
  spent : link.slept = link.settings.frameDelay.toNat + link.settings.handshakeSettle.toNat +
    drained.length * link.settings.pollInterval.toNat
  clean : ∀ span, link.settings.budget? = some span → (link.collector.feed drained).2.resyncs = 0 →
    link.slept ≤ span.toMillis
  silent : ∀ span, link.settings.budget? = some span → (∀ chunk ∈ drained, chunk = []) → link.slept = span.toMillis
  counted : link.settings.maxResyncs.toNat < 0xFFFFFFFF → (link.collector.feed drained).2.resyncs ≤ 0xFFFFFFFF
  bounded : link.settings.maxResyncs.toNat < 0xFFFFFFFF →
    link.slept ≤ link.settings.handshakeSettle.toNat + link.settings.frameDelay.toNat +
      (link.settings.maxResyncs.toNat + 1) * link.settings.maxPolls.toNat * link.settings.pollInterval.toNat

theorem attempt_slept {answered : Bool} (positive : 1 ≤ link.settings.maxPolls.toNat)
    (completed : link.handshake.1 = .ok answered) : ∃ drained, link.Slept drained := by
  obtain ⟨drained, polled, spent⟩ := handshake_slept completed
  have counted : max link.settings.maxPolls.toNat 1 = link.settings.maxPolls.toNat := Nat.max_eq_left positive
  have whole : link.settings.wholeAttempt = link.settings.frameDelay.toNat + link.settings.handshakeSettle.toNat +
      link.settings.maxPolls.toNat * link.settings.pollInterval.toNat := by
    rw [LinkSettings.wholeAttempt, Nat.mul_comm]
    omega
  refine ⟨drained, polled, spent, ?_, ?_, ?_, ?_⟩
  · intro span made clean
    rw [spent, (LinkSettings.budget?_lasts made).millis, whole]
    exact Nat.add_le_add_left (Nat.mul_le_mul_right _ (counted ▸ polled.clean clean)) _
  · intro span made silent
    rw [spent, (LinkSettings.budget?_lasts made).millis, whole, polled.silent silent, counted]
  · intro countable
    have before := polled.covered.resynced
    have last := polled.resyncs.2
    omega
  · intro _
    have few : drained.length ≤ (link.settings.maxResyncs.toNat + 1) * link.settings.maxPolls.toNat :=
      counted ▸ polled.bounded
    have most := Nat.mul_le_mul_right link.settings.pollInterval.toNat few
    omega

-- The budget is the time of one attempt to the millisecond, unless it is past what a
-- span holds. An attempt without garbage keeps to it, and in silence it takes all of it.
theorem budget_exact (settings : LinkSettings) :
    (settings.budget? = none ↔ 1000 * 0x10000000000000000 ≤ settings.wholeAttempt) ∧
    (∀ span, settings.budget? = some span → span.Lasts settings.wholeAttempt) ∧
    ∀ (σ : Type) [Line σ] (link : Link σ) (answered : Bool),
      link.settings = settings → 1 ≤ settings.maxPolls.toNat → link.handshake.1 = .ok answered →
      ∃ drained, link.Slept drained := by
  refine ⟨settings.budget?_eq_none_iff, fun _ made => LinkSettings.budget?_lasts made, ?_⟩
  rintro σ _ link answered rfl positive completed
  exact attempt_slept positive completed

theorem budget_spent :
    let silent (settings : LinkSettings) : Link Timetable := .ofLine ⟨[]⟩ settings
    let longest : LinkSettings :=
      { handshakeSettle := 999, pollInterval := 0xFFFFFFFFFFFFFFFF, maxPolls := 1000, frameDelay := 0 }
    let pollless : LinkSettings := { maxPolls := 0 }
    (∃ span, LinkSettings.standard.budget? = some span ∧ span.seconds = 0 ∧ span.nanos = 621000000 ∧
      (silent .standard).slept = span.toMillis) ∧
    longest.budget? ≠ none ∧ { longest with frameDelay := 1 }.budget? = none ∧
    ∃ span, pollless.budget? = some span ∧ span.toMillis < (silent pollless).slept := by
  intro silent longest pollless
  have sent : ∀ settings, ((silent settings).begun.transmit [Opcode.handshake]).1 = .ok () :=
    fun settings => begun_sent (Timetable.accepts ⟨[]⟩)
  obtain ⟨none_iff, lasts, every⟩ := budget_exact .standard
  refine ⟨?_, ?_, (budget_exact { longest with frameDelay := 1 }).1.mpr (by decide), ?_⟩
  · cases made : LinkSettings.standard.budget? with
    | none => exact absurd (none_iff.mp made) (by decide)
    | some span =>
      obtain ⟨answered, completed⟩ := handshake_completes (sent .standard)
      obtain ⟨drained, slept⟩ := every Timetable (silent .standard) answered rfl (by decide) completed
      refine ⟨span, rfl, (lasts span made).seconds, (lasts span made).nanos, slept.silent span made ?_⟩
      apply List.flatten_eq_nil_iff.mp
      rw [slept.polled.flatten (sent .standard)]
      exact Timetable.idle _
  · intro missing
    exact absurd ((budget_exact longest).1.mp missing) (by decide)
  · cases made : pollless.budget? with
    | none => exact absurd ((budget_exact pollless).1.mp made) (by decide)
    | some span =>
      obtain ⟨answered, completed⟩ := handshake_completes (sent pollless)
      obtain ⟨drained, polled, slept⟩ := handshake_slept completed
      have millis : span.toMillis = 101 := (LinkSettings.budget?_lasts made).millis
      have polls := polled.positive
      refine ⟨span, rfl, ?_⟩
      change _ = 1 + 100 + drained.length * 20 at slept
      omega

end Link

end SerialPanel
