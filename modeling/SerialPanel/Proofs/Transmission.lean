import SerialPanel.Display
import SerialPanel.Proofs.Encoding
namespace SerialPanel

namespace Line

inductive Visit where
  | write (bytes : Bytes)
  | wait (millis : Nat)

variable {σ : Type} [Line σ]

def visit (line : σ) : Visit → σ
  | .write bytes => (Line.write line bytes).line
  | .wait millis => (Line.wait line millis).2

def Accepts (line : σ) : Prop :=
  ∀ (visits : List Visit) (bytes : Bytes), (Line.write (visits.foldl visit line) bytes).result = .ok ()

theorem Accepts.result {line : σ} (accepts : Accepts line) (bytes : Bytes) :
    (Line.write line bytes).result = .ok () :=
  accepts [] bytes

theorem Accepts.write {line : σ} (accepts : Accepts line) (bytes : Bytes) :
    Accepts (Line.write line bytes).line :=
  fun visits => accepts (.write bytes :: visits)

theorem Accepts.wait {line : σ} (accepts : Accepts line) (millis : Nat) :
    Accepts (Line.wait line millis).2 :=
  fun visits => accepts (.wait millis :: visits)

end Line

namespace Link

variable {σ : Type}

@[simp] theorem arrive_line (link : Link σ) (bytes : Bytes) : (link.arrive bytes).line = link.line := by
  unfold arrive
  split <;> rfl

@[simp] theorem arrive_settings (link : Link σ) (bytes : Bytes) :
    (link.arrive bytes).settings = link.settings := by
  unfold arrive
  split <;> rfl

@[simp] theorem arrive_state (link : Link σ) (bytes : Bytes) : (link.arrive bytes).state = link.state := by
  unfold arrive
  split <;> rfl

@[simp] theorem arrive_listening (link : Link σ) (bytes : Bytes) :
    (link.arrive bytes).listening = link.listening := by
  unfold arrive
  split <;> rfl

@[simp] theorem arrive_framesSent (link : Link σ) (bytes : Bytes) :
    (link.arrive bytes).framesSent = link.framesSent := by
  unfold arrive
  split <;> rfl

-- What sending leaves alone. Bytes may arrive meanwhile, so the receive buffer is
-- not among it.
structure Keeps (before after : Link σ) : Prop where
  settings : after.settings = before.settings
  state : after.state = before.state
  listening : after.listening = before.listening

theorem Keeps.refl (link : Link σ) : Keeps link link := ⟨rfl, rfl, rfl⟩

theorem Keeps.trans {first second third : Link σ} (one : Keeps first second) (two : Keeps second third) :
    Keeps first third :=
  ⟨two.settings.trans one.settings, two.state.trans one.state, two.listening.trans one.listening⟩

variable [Line σ]

@[simp] theorem write_line (link : Link σ) (bytes : Bytes) :
    (link.write bytes).2.line = (Line.write link.line bytes).line :=
  arrive_line ..

@[simp] theorem wait_line (link : Link σ) (millis : UInt64) :
    (link.wait millis).line = (Line.wait link.line millis.toNat).2 :=
  arrive_line ..

-- Everything that one frame can come to. All that is proved of sending rests on
-- these three cases.
theorem transmit_cases (link : Link σ) (content : Bytes) :
    let written := link.write (link.settings.headed content)
    let closed := written.2.write frameTail
    (∃ source, written.1 = .error source ∧
      link.transmit content = (.error (.transport "frame write" source), written.2)) ∨
    (∃ source, written.1 = .ok () ∧ closed.1 = .error source ∧
      link.transmit content = (.error (.transport "frame tail write" source), closed.2)) ∨
    (written.1 = .ok () ∧ closed.1 = .ok () ∧
      link.transmit content =
        (.ok (), { closed.2 with framesSent := closed.2.framesSent + 1 }.wait
          closed.2.settings.frameDelay)) := by
  intro written closed
  unfold transmit
  split
  · rename_i source after refused
    exact .inl ⟨source, by simp [written, refused], by simp [written, refused]⟩
  · rename_i after accepted
    have same : closed = after.write frameTail := by simp [closed, written, accepted]
    rw [same]
    split
    · rename_i source last refused
      exact .inr (.inl ⟨source, by simp [written, accepted], by simp [refused], by simp [refused]⟩)
    · rename_i last taken
      exact .inr (.inr ⟨by simp [written, accepted], by simp [taken], by simp [taken]⟩)

theorem write_keeps (link : Link σ) (bytes : Bytes) : Keeps link (link.write bytes).2 :=
  ⟨arrive_settings .., arrive_state .., arrive_listening ..⟩

theorem wait_keeps (link : Link σ) (millis : UInt64) : Keeps link (link.wait millis) :=
  ⟨arrive_settings .., arrive_state .., arrive_listening ..⟩

theorem transmit_keeps (link : Link σ) (content : Bytes) : Keeps link (link.transmit content).2 := by
  have written := link.write_keeps (link.settings.headed content)
  have closed := written.trans (write_keeps _ frameTail)
  obtain ⟨_, _, outcome⟩ | ⟨_, _, _, outcome⟩ | ⟨_, _, outcome⟩ := link.transmit_cases content
  · rw [outcome]
    exact written
  · rw [outcome]
    exact closed
  · have counted : ∀ sent : Link σ, Keeps sent { sent with framesSent := sent.framesSent + 1 } :=
      fun _ => ⟨rfl, rfl, rfl⟩
    rw [outcome]
    exact (closed.trans (counted _)).trans (wait_keeps _ _)

theorem transmit_error {link : Link σ} {content : Bytes} {fault : Fault}
    (failed : (link.transmit content).1 = .error fault) :
    ∃ operation source, fault = .transport operation source := by
  obtain ⟨source, _, outcome⟩ | ⟨source, _, _, outcome⟩ | ⟨_, _, outcome⟩ := link.transmit_cases content
  · rw [outcome] at failed
    cases failed
    exact ⟨_, source, rfl⟩
  · rw [outcome] at failed
    cases failed
    exact ⟨_, source, rfl⟩
  · rw [outcome] at failed
    cases failed

theorem transmit_closed {link : Link σ} {content : Bytes} (sent : (link.transmit content).1 = .ok ()) :
    let written := link.write (link.settings.headed content)
    let closed := written.2.write frameTail
    written.1 = .ok () ∧ closed.1 = .ok () ∧
      (link.transmit content).2 =
        { closed.2 with framesSent := closed.2.framesSent + 1 }.wait closed.2.settings.frameDelay := by
  rcases link.transmit_cases content with ⟨_, _, outcome⟩ | ⟨_, _, _, outcome⟩ | ⟨taken, closed, outcome⟩
  · rw [outcome] at sent
    cases sent
  · rw [outcome] at sent
    cases sent
  · exact ⟨taken, closed, congrArg Prod.snd outcome⟩

theorem transmit_accepted {link : Link σ} (accepts : Line.Accepts link.line) (content : Bytes) :
    (link.transmit content).1 = .ok () ∧ Line.Accepts (link.transmit content).2.line := by
  have first : (link.write (link.settings.headed content)).1 = .ok () := accepts.result _
  have after : Line.Accepts (link.write (link.settings.headed content)).2.line := by
    rw [write_line]
    exact accepts.write _
  obtain ⟨_, refused, _⟩ | ⟨_, _, refused, _⟩ | ⟨_, _, outcome⟩ := link.transmit_cases content
  · rw [first] at refused
    cases refused
  · have second := after.result frameTail
    have : ((link.write (link.settings.headed content)).2.write frameTail).1 = .ok () := second
    rw [this] at refused
    cases refused
  · rw [outcome]
    refine ⟨rfl, ?_⟩
    rw [wait_line]
    refine Line.Accepts.wait ?_ _
    rw [write_line]
    exact after.write _

theorem transmitAll_cons (link : Link σ) (content : Bytes) (later : List Bytes) :
    link.transmitAll (content :: later) =
      match (link.transmit content).1 with
      | .error fault => (.error fault, (link.transmit content).2)
      | .ok _ => (link.transmit content).2.transmitAll later := by
  rw [transmitAll]
  split <;> rename_i sent <;> simp [sent]

theorem transmitAll_keeps (link : Link σ) (frames : List Bytes) : Keeps link (link.transmitAll frames).2 := by
  induction frames generalizing link with
  | nil => exact .refl link
  | cons content later ih =>
    have one := link.transmit_keeps content
    rw [transmitAll_cons]
    split
    · exact one
    · exact one.trans (ih _)

theorem transmitAll_error {link : Link σ} {frames : List Bytes} {fault : Fault}
    (failed : (link.transmitAll frames).1 = .error fault) :
    ∃ operation source, fault = .transport operation source := by
  induction frames generalizing link with
  | nil => cases failed
  | cons content later ih =>
    rw [transmitAll_cons] at failed
    split at failed
    · rename_i other refused
      cases failed
      exact transmit_error refused
    · exact ih failed

theorem transmitAll_accepted {link : Link σ} (accepts : Line.Accepts link.line) (frames : List Bytes) :
    (link.transmitAll frames).1 = .ok () := by
  induction frames generalizing link with
  | nil => rfl
  | cons content later ih =>
    obtain ⟨sent, still⟩ := transmit_accepted accepts content
    rw [transmitAll_cons, sent]
    exact ih still

theorem transmitAll_accepting {link : Link σ} (accepts : Line.Accepts link.line) (contents : List Bytes) :
    Line.Accepts (link.transmitAll contents).2.line := by
  induction contents generalizing link with
  | nil => exact accepts
  | cons content later ih =>
    obtain ⟨sent, still⟩ := transmit_accepted accepts content
    rw [transmitAll_cons, sent]
    exact ih still

end Link

namespace Display

variable {σ : Type} [Line σ]

theorem palette_encodes (foreground background : Color) :
    ∃ content, (Instruction.palette foreground background).encode = .ok content :=
  ⟨_, Instruction.encode_ok_iff.mpr ⟨by simp [Instruction.fields], rfl⟩⟩

-- A rectangle comes out as if its palette had been planned together with it: a
-- palette always encodes, so the order in which the two frames are made is not seen.
theorem rectangle_exact (display : Display σ) (mode : RectangleMode) (color : Color)
    (x0 y0 x1 y1 : Int32) :
    display.drawRectangle mode color x0 y0 x1 y1 =
      display.issue (.drawRectangle mode color x0 y0 x1 y1) := by
  obtain ⟨palette, made⟩ := palette_encodes color Color.white
  unfold drawRectangle issue Command.frames
  simp only [Command.plan, List.mapM_cons, List.mapM_nil, bind, Except.bind, pure, Except.pure, made]
  cases own : (Instruction.rectangle mode x0.toInt y0.toInt x1.toInt y1.toInt).encode with
  | error fault => rfl
  | ok frame =>
    simp only [transmit, Link.transmitAll_cons]
    cases first : (display.link.transmit palette).1 with
    | error fault => rfl
    | ok _ => simp [Link.transmitAll]

theorem draw_exact (display : Display σ) (command : Command) :
    display.draw command = display.issue command := by
  cases command with
  | drawRectangle mode color x0 y0 x1 y1 => exact display.rectangle_exact mode color x0 y0 x1 y1
  | _ => rfl

theorem draw_keeps (display : Display σ) (command : Command) :
    (display.draw command).2.settings = display.settings ∧
      display.link.Keeps (display.draw command).2.link := by
  rw [draw_exact]
  unfold issue
  split
  · exact ⟨rfl, .refl _⟩
  · exact ⟨rfl, display.link.transmitAll_keeps _⟩

end Display

end SerialPanel
