import SerialPanel.Proofs.Transmission
namespace SerialPanel

namespace Link

variable {σ : Type} [Line σ]

theorem poll_keeps (link : Link σ) (collector : Collector) :
    (link.poll collector).2.settings = link.settings ∧
      (link.poll collector).2.listening = link.listening := by
  induction link, collector using poll.induct with
  | case1 link collector data rest taken next recorded
  | case2 link collector data rest taken next recorded =>
    cases taken
    have waited := link.wait_keeps link.settings.pollInterval
    rw [poll_eq]
    simp only [recorded]
    exact ⟨waited.settings, waited.listening⟩
  | case3 link collector data rest taken next recorded ih =>
    cases taken
    have waited := link.wait_keeps link.settings.pollInterval
    rw [poll_eq]
    simp only [recorded]
    exact ⟨ih.1.trans waited.settings, ih.2.trans waited.listening⟩

theorem handshake_keeps (link : Link σ) :
    link.handshake.2.settings = link.settings ∧ link.handshake.2.listening = link.listening := by
  have sent := transmit_keeps { link with state := link.state.attempted } [Opcode.handshake]
  unfold handshake
  split
  · rename_i fault after failed
    rw [failed] at sent
    exact ⟨sent.settings, sent.listening⟩
  · rename_i after done
    rw [done] at sent
    have waited := after.wait_keeps after.settings.handshakeSettle
    have polled := poll_keeps (after.wait after.settings.handshakeSettle)
      (.start (after.wait after.settings.handshakeSettle).settings.maxPolls.toNat
        (after.wait after.settings.handshakeSettle).settings.maxResyncs.toNat)
    simp only
    split
    · rename_i last answered
      rw [answered] at polled
      exact ⟨(polled.1.trans waited.settings).trans sent.settings,
        (polled.2.trans waited.listening).trans sent.listening⟩
    · rename_i last silent
      rw [silent] at polled
      exact ⟨(polled.1.trans waited.settings).trans sent.settings,
        (polled.2.trans waited.listening).trans sent.listening⟩

theorem handshakeWithin_keeps (link : Link σ) (attempts : Nat) :
    (link.handshakeWithin attempts).2.settings = link.settings := by
  induction attempts generalizing link with
  | zero => rfl
  | succ attempts ih =>
    have one := link.handshake_keeps.1
    unfold handshakeWithin
    split
    · rename_i after silent
      rw [silent] at one
      exact (ih after).trans one
    · rename_i result after _ answered
      rw [answered] at one
      exact one

end Link

namespace Display

variable {σ : Type}

-- What the owner of a display can do with it, and what can happen to it meanwhile.
-- The line is the owner's as well, to be handled in any way.
inductive Event (σ : Type) where
  | draw (command : Command)
  | start (patience : Nat)
  | startOrFail (attempts : UInt32)
  | handshake
  | send (frame : Frame)
  | write (bytes : Bytes)
  | arrive (bytes : Bytes)
  | drain
  | release
  | exchange (line : σ)

variable [Line σ]

def after (display : Display σ) : Event σ → Display σ
  | .draw command => (display.draw command).2
  | .start patience => (display.startWithin patience).2
  | .startOrFail attempts => (display.startOrFail attempts).2
  | .handshake => { display with link := display.link.handshake.2 }
  | .send frame => { display with link := (display.link.send frame).2.2 }
  | .write bytes => { display with link := (display.link.write bytes).2 }
  | .arrive bytes => { display with link := display.link.arrive bytes }
  | .drain => { display with link := display.link.drain.2 }
  | .release => { display with link := display.link.release }
  | .exchange line => { display with link.line := line }

inductive Reached (settings : Settings) : Display σ → Prop where
  | connected {line : σ} {display : Display σ} (opened : connect line settings = .ok display) :
      Reached settings display
  | followed {display : Display σ} (prior : Reached settings display) (event : Event σ) :
      Reached settings (display.after event)

theorem drawAll_keeps (display : Display σ) (commands : List Command) :
    (display.drawAll commands).2.settings = display.settings ∧
      display.link.Keeps (display.drawAll commands).2.link := by
  induction commands generalizing display with
  | nil => exact ⟨rfl, .refl _⟩
  | cons command later ih =>
    obtain ⟨own, linked⟩ := display.draw_keeps command
    unfold drawAll
    split
    · rename_i fault after failed
      rw [failed] at own linked
      exact ⟨own, linked⟩
    · rename_i after done
      rw [done] at own linked
      exact ⟨(ih after).1.trans own, linked.trans (ih after).2⟩

theorem startWithin_settings (display : Display σ) (attempts : Nat) :
    (display.startWithin attempts).2.settings = display.settings ∧
      (display.startWithin attempts).2.link.settings = display.link.settings := by
  have tried := display.link.handshakeWithin_keeps attempts
  unfold startWithin
  split
  · rename_i fault link failed
    rw [failed] at tried
    exact ⟨rfl, tried⟩
  · rename_i link silent
    rw [silent] at tried
    exact ⟨rfl, tried⟩
  · rename_i link answered
    rw [answered] at tried
    have drawn := drawAll_keeps { display with link } (welcome display.settings)
    exact ⟨drawn.1, drawn.2.settings.trans tried⟩

theorem startOrFail_display (display : Display σ) (attempts : UInt32) :
    (display.startOrFail attempts).2 = (display.startWithin attempts.toNat).2 := by
  unfold startOrFail
  split <;> rename_i started <;> rw [started]

theorem after_settings (display : Display σ) (event : Event σ) :
    (display.after event).settings = display.settings ∧
      (display.after event).link.settings = display.link.settings := by
  cases event with
  | draw command =>
    obtain ⟨own, linked⟩ := display.draw_keeps command
    exact ⟨own, linked.settings⟩
  | start patience => exact display.startWithin_settings patience
  | startOrFail attempts =>
    have started := display.startWithin_settings attempts.toNat
    rw [← startOrFail_display] at started
    exact started
  | handshake => exact ⟨rfl, display.link.handshake_keeps.1⟩
  | send frame => exact ⟨rfl, (display.link.transmit_keeps frame.content).settings⟩
  | write bytes => exact ⟨rfl, (display.link.write_keeps bytes).settings⟩
  | arrive bytes => exact ⟨rfl, display.link.arrive_settings bytes⟩
  | drain => exact ⟨rfl, rfl⟩
  | release => exact ⟨rfl, rfl⟩
  | exchange line => exact ⟨rfl, rfl⟩

theorem reached_settings {settings : Settings} {display : Display σ} (reached : Reached settings display) :
    display.settings = settings ∧ display.link.settings = settings.link ∧ settings.Usable := by
  induction reached with
  | @connected line display opened =>
    unfold connect at opened
    cases checked : settings.check with
    | error fault => simp [checked, Except.map] at opened
    | ok _ =>
      simp only [checked, Except.map, Except.ok.injEq] at opened
      subst opened
      exact ⟨rfl, rfl, settings.check_exact.mp checked⟩
  | @followed display prior event ih =>
    obtain ⟨own, linked⟩ := display.after_settings event
    obtain ⟨settings, link, usable⟩ := ih
    exact ⟨own.trans settings, linked.trans link, usable⟩

end Display

end SerialPanel
