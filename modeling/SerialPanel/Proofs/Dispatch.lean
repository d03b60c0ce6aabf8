import SerialPanel.Proofs.Isolation
import SerialPanel.Proofs.Startup
namespace SerialPanel

namespace Link

variable {σ : Type} [Line σ]

structure Took (contents : List Bytes) (before after : Link (Tape σ)) : Prop where
  accepts : Line.Accepts after.line
  log : after.line.log = before.line.log ++ (contents.flatMap before.settings.framed).map Tape.taken
  framesSent : after.framesSent = before.framesSent + contents.length

theorem transmit_took {link : Link (Tape σ)} (accepts : Line.Accepts link.line) (content : Bytes) :
    (link.transmit content).1 = .ok () ∧ Took [content] link (link.transmit content).2 := by
  obtain ⟨sent, still⟩ := transmit_accepted accepts content
  obtain ⟨taken, closed, outcome⟩ := transmit_closed sent
  have firstLog := link.write_logged (link.settings.headed content)
  have secondLog := (link.write (link.settings.headed content)).2.write_logged frameTail
  rw [closed, firstLog, taken, List.append_assoc] at secondLog
  refine ⟨sent, still, ?_, ?_⟩
  · rw [outcome]
    exact (wait_logged _ _).trans secondLog
  · rw [outcome]
    simp [write, wait]

theorem transmitAll_took {link : Link (Tape σ)} (accepts : Line.Accepts link.line) (contents : List Bytes) :
    (link.transmitAll contents).1 = .ok () ∧ Took contents link (link.transmitAll contents).2 := by
  induction contents generalizing link with
  | nil => exact ⟨rfl, accepts, (List.append_nil _).symm, rfl⟩
  | cons content later ih =>
    obtain ⟨sent, one⟩ := transmit_took accepts content
    obtain ⟨rest, others⟩ := ih one.accepts
    have settings := (link.transmit_keeps content).settings
    rw [transmitAll_cons, sent]
    refine ⟨rest, others.accepts, ?_, ?_⟩
    · apply others.log.trans
      rw [one.log, settings]
      simp
    · apply others.framesSent.trans
      rw [one.framesSent, Nat.add_assoc, Nat.add_comm _ later.length]
      rfl

end Link

namespace Display

variable {σ : Type} [Line σ]

structure Wrote (display : Display σ) (command : Command) (contents : List Bytes) : Prop where
  result : (display.draw command).1 = .ok ()
  attempts : display.attempts command = (contents.flatMap display.link.settings.framed).map Tape.taken
  framesSent : (display.draw command).2.link.framesSent = display.link.framesSent + contents.length

structure Refused (display : Display σ) (command : Command) (width : FieldWidth) (value : Int) : Prop where
  result : (display.draw command).1 = .error (.fieldOverflow width value)
  unchanged : (display.draw command).2 = display
  attempts : display.attempts command = []

theorem draw_wrote {display : Display σ} (accepts : Line.Accepts display.link.line) {command : Command}
    {contents : List Bytes} (made : command.frames display.settings.screen = .ok contents) :
    display.Wrote command contents := by
  have taped : Line.Accepts display.link.taped.line := Tape.line_follows.accepts accepts
  obtain ⟨sent, took⟩ := Link.transmitAll_took taped contents
  obtain ⟨drawn, attempted⟩ := draw_taped made
  refine ⟨?_, attempted.trans took.log, ?_⟩
  · rw [drawn]
    exact sent
  · rw [drawn]
    exact took.framesSent

theorem draw_accepting {display : Display σ} (accepts : Line.Accepts display.link.line) (command : Command) :
    Line.Accepts (display.draw command).2.link.line := by
  cases made : command.frames display.settings.screen with
  | error fault =>
    rw [draw_unmade made]
    exact accepts
  | ok contents =>
    rw [draw_frames made]
    exact Link.transmitAll_accepting accepts contents

theorem draw_made_iff {display : Display σ} (accepts : Line.Accepts display.link.line) {command : Command} :
    (display.draw command).1 = .ok () ↔ ∃ contents, command.frames display.settings.screen = .ok contents := by
  cases made : command.frames display.settings.screen with
  | error fault =>
    rw [draw_unmade made]
    simp
  | ok contents => exact iff_of_true (draw_wrote accepts made).result ⟨contents, rfl⟩

-- A command of two frames does what two commands of one frame each do.
theorem draw_composed {display : Display σ} (accepts : Line.Accepts display.link.line) {whole first second : Command}
    {one two : Bytes} (made : whole.frames display.settings.screen = .ok [one, two])
    (firstMade : first.frames display.settings.screen = .ok [one])
    (secondMade : second.frames display.settings.screen = .ok [two]) :
    let between := (display.draw first).2
    display.draw whole = display.drawAll [first, second] ∧ (display.draw first).1 = .ok () ∧
      (between.draw second).1 = .ok () ∧
      display.attempts whole = display.attempts first ++ between.attempts second := by
  intro between
  obtain ⟨settings, kept⟩ := display.draw_keeps first
  have together := draw_wrote accepts made
  have before := draw_wrote accepts firstMade
  have behind : between.Wrote second [two] := by
    apply draw_wrote (draw_accepting accepts first)
    rw [settings]
    exact secondMade
  refine ⟨?_, before.result, behind.result, ?_⟩
  · rw [draw_frames made, drawAll_frames rfl (.cons firstMade (.cons secondMade .nil))]
  · rw [together.attempts, before.attempts, behind.attempts, kept.settings, ← List.map_append]
    rfl

theorem draw_refused {display : Display σ} {command : Command} {width : FieldWidth} {value : Int}
    (failed : command.frames display.settings.screen = .error (.fieldOverflow width value)) :
    display.Refused command width value := by
  have drawn := draw_unmade failed
  have taped : display.taped.draw command = (.error (.fieldOverflow width value), display.taped) := draw_unmade failed
  refine ⟨congrArg Prod.fst drawn, congrArg Prod.snd drawn, ?_⟩
  unfold attempts
  rw [taped]
  rfl

end Display

end SerialPanel
