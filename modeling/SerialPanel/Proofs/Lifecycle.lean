import SerialPanel.Proofs.History
import SerialPanel.Proofs.Polling
namespace SerialPanel

namespace LinkState

def concluded (state : LinkState) (result : Except Fault Bool) : LinkState :=
  if result = .ok true then .ready else state.attempted

theorem concluded_ready_iff (state : LinkState) (result : Except Fault Bool) :
    state.concluded result = .ready ↔ state = .ready ∨ result = .ok true := by
  unfold concluded
  split
  · rename_i answered
    exact iff_of_true rfl (.inr answered)
  · rename_i unanswered
    cases state <;> simp [attempted, unanswered]

theorem concluded_started (state : LinkState) (result : Except Fault Bool) :
    state.concluded result ≠ .uninitialized := by
  unfold concluded
  split
  · simp
  · cases state <;> simp [attempted]

theorem concluded_all_ready_iff (state : LinkState) (results : List (Except Fault Bool)) :
    results.foldl concluded state = .ready ↔ state = .ready ∨ .ok true ∈ results := by
  induction results generalizing state with
  | nil => simp
  | cons result later ih =>
    rw [List.foldl_cons, ih, concluded_ready_iff, List.mem_cons, or_assoc, eq_comm (a := result)]

theorem concluded_all_uninitialized_iff (state : LinkState) (results : List (Except Fault Bool)) :
    results.foldl concluded state = .uninitialized ↔ state = .uninitialized ∧ results = [] := by
  induction results generalizing state with
  | nil => simp
  | cons result later ih => simp [ih, concluded_started]

end LinkState

namespace Link

variable {σ : Type} [Line σ]

theorem handshake_state (link : Link σ) : link.handshake.2.state = link.state.concluded link.handshake.1 := by
  cases sent : (link.begun.transmit [Opcode.handshake]).1 with
  | error fault =>
    rw [handshake_failed sent, (transmit_keeps _ _).state]
    rfl
  | ok _ =>
    obtain ⟨drained, _, outcome⟩ := handshake_exact sent
    rw [outcome]
    cases decide ((link.collector.feed drained).1 = .acknowledged) <;> rfl

theorem handshake_answered {link : Link σ} (answered : link.handshake.1 = .ok true) :
    ∃ drained, link.Drained drained ∧ [0xAA, 0x00, 0x4F, 0x4B] <+: (link.collector.feed drained).2.bytes := by
  cases sent : (link.begun.transmit [Opcode.handshake]).1 with
  | error fault =>
    rw [handshake_failed sent] at answered
    cases answered
  | ok _ =>
    obtain ⟨drained, polled, outcome⟩ := handshake_exact sent
    rw [outcome] at answered
    have decided := of_decide_eq_true (Except.ok.inj answered)
    exact ⟨drained, polled, (isAcknowledgement_iff _).mp (Collector.feed_acknowledged decided)⟩

def attempts (link : Link σ) : Nat → List (Link σ)
  | 0 => []
  | more + 1 => link :: if link.handshake.1 = .ok false then link.handshake.2.attempts more else []

theorem handshakeWithin_succ (link : Link σ) (more : Nat) :
    link.handshakeWithin (more + 1) =
      if link.handshake.1 = .ok false then link.handshake.2.handshakeWithin more else link.handshake := by
  rw [handshakeWithin]
  split
  · rename_i after silent
    simp [silent]
  · rename_i result after other outcome
    rw [outcome]
    exact (if_neg other).symm

theorem handshakeWithin_state (link : Link σ) (attempts : Nat) :
    (link.handshakeWithin attempts).2.state =
      ((link.attempts attempts).map (·.handshake.1)).foldl LinkState.concluded link.state := by
  induction attempts generalizing link with
  | zero => rfl
  | succ more ih =>
    rw [handshakeWithin_succ, Link.attempts, List.map_cons, List.foldl_cons, ← handshake_state]
    split
    · exact ih _
    · rfl

end Link

namespace Display

variable {σ : Type} [Line σ]

theorem startWithin_state (display : Display σ) (attempts : Nat) :
    (display.startWithin attempts).2.link.state = (display.link.handshakeWithin attempts).2.state := by
  unfold startWithin
  split
  · rename_i fault link failed
    rw [failed]
  · rename_i link silent
    rw [silent]
  · rename_i link answered
    rw [answered]
    exact (drawAll_keeps ..).2.state

def attempted (display : Display σ) : Event σ → List (Link σ)
  | .handshake => [display.link]
  | .start patience => display.link.attempts patience
  | .startOrFail attempts => display.link.attempts attempts.toNat
  | _ => []

theorem after_state (display : Display σ) (event : Event σ) :
    (display.after event).link.state =
      ((display.attempted event).map (·.handshake.1)).foldl LinkState.concluded display.link.state := by
  cases event with
  | draw command => exact (display.draw_keeps command).2.state
  | start patience => exact (display.startWithin_state patience).trans (display.link.handshakeWithin_state patience)
  | startOrFail attempts =>
    change (display.startOrFail attempts).2.link.state = _
    rw [startOrFail_display]
    exact (display.startWithin_state _).trans (display.link.handshakeWithin_state _)
  | handshake => exact display.link.handshake_state
  | send frame => exact (display.link.transmit_keeps frame.content).state
  | write bytes => exact (display.link.write_keeps bytes).state
  | arrive bytes => exact display.link.arrive_state bytes
  | drain => rfl
  | release => rfl
  | exchange line => rfl

def run (display : Display σ) (events : List (Event σ)) : Display σ := events.foldl after display

def history (display : Display σ) : List (Event σ) → List (Link σ)
  | [] => []
  | event :: later => display.attempted event ++ (display.after event).history later

theorem run_state (display : Display σ) (events : List (Event σ)) :
    (display.run events).link.state =
      ((display.history events).map (·.handshake.1)).foldl LinkState.concluded display.link.state := by
  induction events generalizing display with
  | nil => rfl
  | cons event later ih =>
    rw [history, List.map_append, List.foldl_append, ← after_state]
    exact ih (display.after event)

theorem run_append (display : Display σ) (first second : List (Event σ)) :
    display.run (first ++ second) = (display.run first).run second := by
  simp [run]

-- The state of a link at any point of a run, told from the attempts made so far: what
-- else was done with it, and what its line did, is not seen.
theorem state_follows_attempts (line : σ) (linkSettings : LinkSettings) (settings : Settings)
    (events : List (Event σ)) :
    let opened : Display σ := ⟨.ofLine line linkSettings, settings⟩
    let now := opened.run events
    let past := opened.history events
    (now.link.state = .uninitialized ↔ past = []) ∧
    (now.link.state = .ready ↔ ∃ begun ∈ past, begun.handshake.1 = .ok true) ∧
    (now.link.state = .handshakePending ↔ past ≠ [] ∧ ∀ begun ∈ past, begun.handshake.1 ≠ .ok true) ∧
    (∀ event, now.link.state ≠ .ready → (now.after event).link.state = .ready →
      ∃ begun ∈ now.attempted event, begun.handshake.1 = .ok true ∧
        ∃ drained, begun.Drained drained ∧
          [0xAA, 0x00, 0x4F, 0x4B] <+: (begun.collector.feed drained).2.bytes) ∧
    (∀ fault, now.link.state = .uninitialized → now.link.handshake.1 = .error fault →
      now.link.handshake.2.state = .handshakePending) ∧
    (now.startOrFail 0).2 = now ∧
    (now.link.state = .ready → ∀ later, (opened.run (events ++ later)).link.state = .ready) := by
  intro opened now past
  have state : now.link.state = (past.map (·.handshake.1)).foldl LinkState.concluded .uninitialized :=
    opened.run_state events
  have fresh : now.link.state = .uninitialized ↔ past = [] := by
    rw [state, LinkState.concluded_all_uninitialized_iff]
    simp
  have ready : now.link.state = .ready ↔ ∃ begun ∈ past, begun.handshake.1 = .ok true := by
    rw [state, LinkState.concluded_all_ready_iff]
    simp
  refine ⟨fresh, ready, ?_, ?_, ?_, rfl, ?_⟩
  · have others : now.link.state = .handshakePending ↔
        now.link.state ≠ .uninitialized ∧ now.link.state ≠ .ready := by
      cases now.link.state <;> simp
    rw [others, ne_eq, fresh, ne_eq, ready]
    simp
  · intro event before entered
    rw [after_state, LinkState.concluded_all_ready_iff] at entered
    obtain ⟨begun, made, answered⟩ := List.mem_map.mp (entered.resolve_left before)
    exact ⟨begun, made, answered, Link.handshake_answered answered⟩
  · intro fault before failed
    rw [Link.handshake_state, failed, before]
    rfl
  · intro before later
    rw [run_append, run_state, LinkState.concluded_all_ready_iff]
    exact .inl before

theorem refused_then_answered :
    let opened : Display Panel := ⟨.ofLine { acknowledges := true, refuses := (· == 0) } { head := some 0xAA }, {}⟩
    let dead : Panel := { refuses := fun _ => true }
    opened.link.state = .uninitialized ∧
      (opened.run [.handshake]).link.state = .handshakePending ∧
      (opened.run [.handshake, .handshake]).link.state = .ready ∧
      (opened.run [.handshake, .handshake, .exchange dead, .handshake]).link.state = .ready := by
  intro opened dead
  have refused : opened.link.handshake =
      (.error (.transport "frame write" Panel.disconnected), (opened.link.begun.transmit [Opcode.handshake]).2) :=
    Link.handshake_failed rfl
  have answered : (opened.run [.handshake]).link.handshake.1 = .ok true := by
    change opened.link.handshake.2.handshake.1 = .ok true
    rw [refused, Link.handshake_heard rfl]
    rfl
  obtain ⟨_, _, _, _, pending, _⟩ := state_follows_attempts opened.link.line opened.link.settings {} []
  obtain ⟨_, ready, _, _, _, _, stays⟩ :=
    state_follows_attempts opened.link.line opened.link.settings {} [.handshake, .handshake]
  have reached : (opened.run [.handshake, .handshake]).link.state = .ready :=
    ready.mpr ⟨(opened.run [.handshake]).link, List.mem_cons_of_mem _ List.mem_cons_self, answered⟩
  have failed : opened.link.handshake.1 = .error (.transport "frame write" Panel.disconnected) :=
    congrArg Prod.fst refused
  exact ⟨rfl, pending _ rfl failed, reached, stays reached [.exchange dead, .handshake]⟩

end Display

end SerialPanel
