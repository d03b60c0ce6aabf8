import SerialPanel.Proofs.Polling
namespace SerialPanel

namespace Line

variable {σ : Type} [Line σ]

def brings (line : σ) : Visit → Bytes
  | .write bytes => (Line.write line bytes).arrived
  | .wait millis => (Line.wait line millis).1

def arrivals (line : σ) : List Visit → Bytes
  | [] => []
  | visit :: later => brings line visit ++ arrivals (Line.visit line visit) later

theorem arrivals_append (line : σ) (first second : List Visit) :
    arrivals line (first ++ second) = arrivals line first ++ arrivals (first.foldl visit line) second := by
  induction first generalizing line with
  | nil => rfl
  | cons visit later ih =>
    rw [List.cons_append, arrivals, arrivals, ih, List.append_assoc]
    rfl

end Line

namespace Link

variable {σ : Type}

def admitted (link : Link σ) (bytes : Bytes) : Bytes := if link.listening then bytes else []

theorem admitted_append (link : Link σ) (first second : Bytes) :
    link.admitted (first ++ second) = link.admitted first ++ link.admitted second := by
  unfold admitted
  split
  · rfl
  · rfl

theorem arrive_received (link : Link σ) (bytes : Bytes) :
    (link.arrive bytes).received = link.received ++ link.admitted bytes := by
  unfold arrive admitted
  split
  · rfl
  · exact (List.append_nil _).symm

theorem arrive_all (link : Link σ) (chunks : List Bytes) :
    (chunks.foldl arrive link).received = link.received ++ link.admitted chunks.flatten := by
  induction chunks generalizing link with
  | nil =>
    unfold admitted
    simp
  | cons chunk later ih =>
    have same : (link.arrive chunk).admitted later.flatten = link.admitted later.flatten := by
      unfold admitted
      rw [arrive_listening]
    rw [List.foldl_cons, ih, arrive_received, same, List.flatten_cons, admitted_append, List.append_assoc]

def opening (link : Link σ) : List Line.Visit :=
  [.write (link.settings.headed [Opcode.handshake]), .write frameTail, .wait link.settings.frameDelay.toNat,
    .wait link.settings.handshakeSettle.toNat]

def visits (link : Link σ) (polls : Nat) : List Line.Visit :=
  link.opening ++ List.replicate polls (.wait link.settings.pollInterval.toNat)

variable [Line σ]

structure Visited (visits : List Line.Visit) (before after : Link σ) : Prop where
  line : after.line = visits.foldl Line.visit before.line
  received : after.received = before.received ++ before.admitted (Line.arrivals before.line visits)
  listening : after.listening = before.listening

theorem Visited.admitted {visits : List Line.Visit} {before after : Link σ} (visited : Visited visits before after)
    (bytes : Bytes) : after.admitted bytes = before.admitted bytes := by
  unfold Link.admitted
  rw [visited.listening]

theorem Visited.trans {first second : List Line.Visit} {before between after : Link σ}
    (one : Visited first before between) (two : Visited second between after) :
    Visited (first ++ second) before after where
  line := by rw [two.line, one.line, List.foldl_append]
  received := by
    rw [two.received, one.admitted, one.received, one.line, Line.arrivals_append, admitted_append, List.append_assoc]
  listening := two.listening.trans one.listening

theorem write_visited (link : Link σ) (bytes : Bytes) : Visited [.write bytes] link (link.write bytes).2 where
  line := link.write_line bytes
  received := by
    change (arrive _ _).received = _
    rw [arrive_received, Line.arrivals, Line.arrivals, List.append_nil]
    rfl
  listening := (link.write_keeps bytes).listening

theorem wait_visited (link : Link σ) (millis : UInt64) : Visited [.wait millis.toNat] link (link.wait millis) where
  line := link.wait_line millis
  received := by
    change (arrive _ _).received = _
    rw [arrive_received, Line.arrivals, Line.arrivals, List.append_nil]
    rfl
  listening := (link.wait_keeps millis).listening

theorem transmit_visited {link : Link σ} {content : Bytes} (sent : (link.transmit content).1 = .ok ()) :
    Visited [.write (link.settings.headed content), .write frameTail, .wait link.settings.frameDelay.toNat]
      link (link.transmit content).2 := by
  obtain ⟨_, _, outcome⟩ := transmit_closed sent
  have first := link.write_visited (link.settings.headed content)
  have second := write_visited (link.write (link.settings.headed content)).2 frameTail
  have settings : ((link.write (link.settings.headed content)).2.write frameTail).2.settings = link.settings :=
    (write_keeps _ frameTail).settings.trans (link.write_keeps _).settings
  -- The counter is no part of what a visit changes.
  have third := wait_visited
    { ((link.write (link.settings.headed content)).2.write frameTail).2 with
      framesSent := ((link.write (link.settings.headed content)).2.write frameTail).2.framesSent + 1 }
    link.settings.frameDelay
  rw [outcome, settings]
  exact first.trans (second.trans ⟨third.line, third.received, third.listening⟩)

theorem opened_visited {link : Link σ} (sent : (link.begun.transmit [Opcode.handshake]).1 = .ok ()) :
    Visited link.opening link link.opened := by
  have settings : (link.begun.transmit [Opcode.handshake]).2.settings = link.settings :=
    (link.begun.transmit_keeps [Opcode.handshake]).settings
  have waited : link.opened = (link.begun.transmit [Opcode.handshake]).2.wait link.settings.handshakeSettle :=
    congrArg (fun own : LinkSettings => (link.begun.transmit [Opcode.handshake]).2.wait own.handshakeSettle) settings
  have visited := (transmit_visited sent).trans (wait_visited _ link.settings.handshakeSettle)
  rw [waited]
  exact ⟨visited.line, visited.received, visited.listening⟩

theorem polled_line (link : Link σ) (polls : Nat) :
    (link.polled polls).line =
      (List.replicate polls (.wait link.settings.pollInterval.toNat)).foldl Line.visit link.line := by
  induction polls generalizing link with
  | zero => rfl
  | succ polls ih =>
    have waited := link.wait_keeps link.settings.pollInterval
    rw [polled, ih, List.replicate_succ, List.foldl_cons]
    change (List.replicate polls (.wait (link.wait _).settings.pollInterval.toNat)).foldl Line.visit (link.wait _).line = _
    rw [waited.settings, wait_line]
    rfl

theorem polled_received (link : Link σ) {polls : Nat} (positive : 0 < polls) : (link.polled polls).received = [] := by
  induction polls generalizing link with
  | zero => exact absurd positive (Nat.lt_irrefl 0)
  | succ polls ih =>
    rcases Nat.eq_zero_or_pos polls with rfl | more
    · rfl
    · exact ih _ more

theorem chunks_flatten (link : Link σ) (polls : Nat) :
    (link.chunks polls).flatten ++ (link.polled polls).received =
      link.received ++ link.admitted (Line.arrivals link.line
        (List.replicate polls (.wait link.settings.pollInterval.toNat))) := by
  induction polls generalizing link with
  | zero =>
    unfold admitted
    simp [chunks, polled, Line.arrivals]
  | succ polls ih =>
    have waited := link.wait_keeps link.settings.pollInterval
    have visited := link.wait_visited link.settings.pollInterval
    have later := ih (link.wait link.settings.pollInterval).drain.2
    change _ = [] ++ (link.wait _).admitted (Line.arrivals (link.wait _).line
      (List.replicate polls (.wait (link.wait _).settings.pollInterval.toNat))) at later
    rw [visited.admitted, waited.settings, wait_line, List.nil_append] at later
    rw [chunks, polled, List.flatten_cons, List.append_assoc, later, visited.received, List.replicate_succ,
      Line.arrivals, Line.arrivals, Line.arrivals, List.append_nil, admitted_append, List.append_assoc]
    rfl

def waiting (link : Link σ) (polls : Nat) : Bytes :=
  link.received ++ link.admitted (Line.arrivals link.line (link.visits polls))

theorem opened_chunks {link : Link σ} (sent : (link.begun.transmit [Opcode.handshake]).1 = .ok ())
    {polls : Nat} (positive : 0 < polls) : (link.opened.chunks polls).flatten = link.waiting polls := by
  have visited := opened_visited sent
  have settings : link.opened.settings = link.settings := link.opened_keeps.settings
  have drained := link.opened.chunks_flatten polls
  rw [polled_received _ positive, List.append_nil, visited.received, visited.admitted, visited.line, settings] at drained
  rw [drained, waiting, visits, Line.arrivals_append, admitted_append, List.append_assoc]

theorem Drained.positive {link : Link σ} {drained : List Bytes} (polled : link.Drained drained) : 0 < drained.length := by
  apply List.length_pos_iff.mpr
  intro nothing
  exact polled.decided (by rw [nothing]; rfl)

theorem Drained.take {link : Link σ} {drained : List Bytes} (polled : link.Drained drained) {polls : Nat}
    (within : polls ≤ drained.length) : drained.take polls = link.opened.chunks polls := by
  rw [polled.chunks]
  exact link.opened.chunks_take within

theorem Drained.feed_chunks {link : Link σ} {drained : List Bytes} (polled : link.Drained drained) {polls : Nat}
    (decided : (link.collector.feed (link.opened.chunks polls)).1 ≠ .pending) :
    link.collector.feed drained = link.collector.feed (link.opened.chunks polls) := by
  rcases Nat.le_total polls drained.length with within | beyond
  · rw [← polled.take within] at decided ⊢
    have whole := Collector.feed_append_decided decided (drained.drop polls)
    rwa [List.take_append_drop] at whole
  · have own : (link.opened.chunks polls).take drained.length = drained :=
      (link.opened.chunks_take beyond).trans polled.chunks.symm
    have whole := Collector.feed_append_decided polled.decided ((link.opened.chunks polls).drop drained.length)
    have split := List.take_append_drop drained.length (link.opened.chunks polls)
    rw [own] at split
    rwa [split, eq_comm] at whole

structure Attempted (link : Link σ) (drained : List Bytes) (answered : Bool) : Prop where
  polled : link.Drained drained
  result : link.handshake.1 = .ok answered
  line : link.handshake.2.line = (link.visits drained.length).foldl Line.visit link.line
  sound : answered = true → ∃ noise kept, drained = noise ++ kept ∧ link.collector.Settled noise kept ∧
    [0xAA, 0x00, 0x4F, 0x4B] <+: kept.flatten
  complete : ∀ polls, 0 < polls → polls ≤ link.settings.maxPolls.toNat →
    [0xAA, 0x00, 0x4F, 0x4B] <+: link.waiting polls → answered = true
  conserved : ∀ polls, 0 < polls → polls ≤ drained.length → (drained.take polls).flatten = link.waiting polls
  whole : drained.flatten = link.waiting drained.length
  behind : ∀ later : List Bytes, (later.foldl arrive link.handshake.2).received = link.admitted later.flatten

-- An attempt whose two writes are taken, whatever comes in between any two visits to the
-- line and however it is cut.
theorem handshake_any_timing {link : Link σ} (sent : (link.begun.transmit [Opcode.handshake]).1 = .ok ()) :
    ∃ drained answered, link.Attempted drained answered := by
  obtain ⟨drained, polled, outcome⟩ := handshake_exact sent
  have conserved : ∀ polls, 0 < polls → polls ≤ drained.length →
      (drained.take polls).flatten = link.waiting polls := by
    intro polls positive within
    rw [polled.take within]
    exact opened_chunks sent positive
  refine ⟨drained, _, polled, by rw [outcome], ?_, ?_, ?_, conserved, ?_, ?_⟩
  · have settings : link.opened.settings = link.settings := link.opened_keeps.settings
    rw [outcome]
    change (link.opened.polled drained.length).line = _
    rw [polled_line, settings, (opened_visited sent).line, visits, List.foldl_append]
  · intro answered
    obtain ⟨noise, kept, split, settled, collected⟩ :=
      Collector.feed_settled (show link.collector.bytes = [] from rfl) drained polled.undecided
    refine ⟨noise, kept, split, settled, ?_⟩
    rw [← collected]
    exact (isAcknowledgement_iff _).mp (Collector.feed_acknowledged (of_decide_eq_true answered))
  · intro polls positive budget opens
    have answered : (link.collector.feed (link.opened.chunks polls)).1 = .acknowledged := by
      apply Collector.feed_answered
      · rw [opened_chunks sent positive]
        exact (isAcknowledgement_iff _).mpr opens
      · rfl
      · rw [chunks_length]
        exact (Nat.zero_add polls).symm ▸ budget
    have undone : (link.collector.feed (link.opened.chunks polls)).1 ≠ .pending := by
      rw [answered]
      simp
    rw [polled.feed_chunks undone]
    exact decide_eq_true answered
  · have all := conserved drained.length polled.positive (Nat.le_refl _)
    rwa [List.take_length] at all
  · intro later
    rw [arrive_all, outcome]
    change (link.opened.polled drained.length).received ++ (link.opened.polled drained.length).admitted _ = _
    rw [polled_received _ polled.positive, List.nil_append]
    unfold admitted
    rw [(polled_keeps _ _).listening, link.opened_keeps.listening]
    rfl

end Link

-- A line that takes every write and brings in bytes by a timetable, one entry for
-- each visit. Every course of arrivals is that of such a line.
structure Timetable where
  entries : List Bytes

namespace Timetable

def later (table : Timetable) : Timetable := ⟨table.entries.tail⟩

instance : Line Timetable where
  write table _ := ⟨.ok (), table.entries.headD [], table.later⟩
  wait table _ := (table.entries.headD [], table.later)

theorem accepts (table : Timetable) : Line.Accepts table := fun _ _ => rfl

end Timetable

namespace Link

theorem answer_in_parts :
    let link : Link Timetable :=
      { line := ⟨[[], [0x00], [], [], [0x4F], [], [0x4B, 0x07]]⟩
        settings := { maxPolls := 3 }
        received := [0xAA] }
    (link.begun.transmit [Opcode.handshake]).1 = .ok () ∧ link.handshake.1 = .ok true ∧
      (∃ drained noise kept, link.Drained drained ∧ drained = noise ++ kept ∧
        [0xAA, 0x00, 0x4F, 0x4B] <+: kept.flatten) ∧
      (link.handshake.2.arrive [0x3D]).received = [0x3D] := by
  intro link
  have sent : (link.begun.transmit [Opcode.handshake]).1 = .ok () := rfl
  obtain ⟨drained, answered, attempted⟩ := handshake_any_timing sent
  have yes : answered = true := attempted.complete 3 (by decide) (by decide) (by decide)
  obtain ⟨noise, kept, split, _, opens⟩ := attempted.sound yes
  exact ⟨sent, yes ▸ attempted.result, ⟨drained, noise, kept, attempted.polled, split, opens⟩,
    attempted.behind [[0x3D]]⟩

end Link

end SerialPanel
