import SerialPanel.Proofs.Observation
import SerialPanel.Proofs.Vocabulary
namespace SerialPanel

namespace Line

variable {σ : Type} [Line σ]

def attempted : List Visit → List Bytes
  | [] => []
  | .write bytes :: later => bytes :: attempted later
  | .wait _ :: later => attempted later

def Severs (count : Nat) (line : σ) : Prop :=
  ∀ (visits : List Visit) (bytes : Bytes),
    (Line.write (visits.foldl visit line) bytes).result = .ok () ↔ (attempted visits).length < count

namespace Severs

variable {line : σ} {count : Nat}

theorem write (severs : Severs count line) (bytes : Bytes) :
    Severs (count - 1) (Line.write line bytes).line := by
  intro visits next
  rw [Nat.lt_sub_iff_add_lt]
  exact severs (.write bytes :: visits) next

theorem wait (severs : Severs count line) (millis : Nat) : Severs count (Line.wait line millis).2 :=
  fun visits => severs (.wait millis :: visits)

theorem taken_iff (severs : Severs count line) (bytes : Bytes) :
    (Line.write line bytes).result = .ok () ↔ 0 < count :=
  severs [] bytes

end Severs

end Line

structure Tape (σ : Type) where
  line : σ
  log : List (Bytes × Except LineFault Unit)

namespace Tape

variable {σ : Type} [Line σ]

instance : Line (Tape σ) where
  write tape bytes :=
    let written := Line.write tape.line bytes
    ⟨written.result, written.arrived, ⟨written.line, tape.log ++ [(bytes, written.result)]⟩⟩
  wait tape millis := ((Line.wait tape.line millis).1, ⟨(Line.wait tape.line millis).2, tape.log⟩)

def taken (bytes : Bytes) : Bytes × Except LineFault Unit := (bytes, .ok ())

theorem line_follows : Line.Follows (Tape.line : Tape σ → σ) := ⟨fun _ _ => rfl, fun _ _ => rfl⟩

end Tape

namespace Link

variable {σ : Type}

def taped (link : Link σ) : Link (Tape σ) :=
  ⟨⟨link.line, []⟩, link.settings, link.state, link.received, link.listening, link.framesSent⟩

def untaped (link : Link (Tape σ)) : Link σ :=
  ⟨link.line.line, link.settings, link.state, link.received, link.listening, link.framesSent⟩

variable [Line σ]

theorem transmitAll_untaped (link : Link (Tape σ)) (contents : List Bytes) :
    link.untaped.transmitAll contents =
      ((link.transmitAll contents).1, (link.transmitAll contents).2.untaped) :=
  transmitAll_seen Tape.line_follows link contents

theorem write_logged (link : Link (Tape σ)) (bytes : Bytes) :
    (link.write bytes).2.line.log = link.line.log ++ [(bytes, (link.write bytes).1)] := by
  rw [write_line]
  rfl

theorem write_severs {link : Link (Tape σ)} {count : Nat} (severs : Line.Severs count link.line.line)
    (bytes : Bytes) :
    ((link.write bytes).1 = .ok () ↔ 0 < count) ∧ Line.Severs (count - 1) (link.write bytes).2.line.line := by
  rw [write_line]
  exact ⟨severs.taken_iff bytes, severs.write bytes⟩

inductive Sent (content : Bytes) (before : Link (Tape σ)) :
    Nat → Except Fault Unit → Link (Tape σ) → Prop where
  | unheard {source after} :
    after.line.log = before.line.log ++ [(before.settings.headed content, .error source)] →
    after.framesSent = before.framesSent →
    Sent content before 0 (.error (.transport "frame write" source)) after
  | unclosed {source after} :
    after.line.log =
      before.line.log ++ [Tape.taken (before.settings.headed content), (frameTail, .error source)] →
    after.framesSent = before.framesSent →
    Sent content before 1 (.error (.transport "frame tail write" source)) after
  | whole {count after} :
    after.line.log = before.line.log ++ (before.settings.framed content).map Tape.taken →
    after.framesSent = before.framesSent + 1 →
    after.settings = before.settings →
    Line.Severs count after.line.line →
    Sent content before (count + 2) (.ok ()) after

theorem transmit_sent {link : Link (Tape σ)} {count : Nat} (severs : Line.Severs count link.line.line)
    (content : Bytes) : Sent content link count (link.transmit content).1 (link.transmit content).2 := by
  have firstLog := link.write_logged (link.settings.headed content)
  have secondLog := (link.write (link.settings.headed content)).2.write_logged frameTail
  obtain ⟨first, between⟩ := write_severs severs (link.settings.headed content)
  obtain ⟨second, rest⟩ := write_severs between frameTail
  have counted := (link.write_keeps (link.settings.headed content)).trans (write_keeps _ frameTail)
  obtain ⟨source, refused, outcome⟩ | ⟨source, taken, refused, outcome⟩ | ⟨taken, closed, outcome⟩ :=
    link.transmit_cases content
  · have exhausted : ¬0 < count := fun more => by cases refused.symm.trans (first.mpr more)
    obtain rfl : count = 0 := by omega
    rw [outcome]
    apply Sent.unheard
    · rw [firstLog, refused]
    · simp [write]
  · have before := first.mp taken
    have exhausted : ¬0 < count - 1 := fun more => by cases refused.symm.trans (second.mpr more)
    obtain rfl : count = 1 := by omega
    rw [outcome]
    apply Sent.unclosed
    · rw [secondLog, firstLog, refused, taken]
      simp [Tape.taken]
    · simp [write]
  · have before := second.mp closed
    obtain ⟨more, rfl⟩ : ∃ more, count = more + 2 := ⟨count - 2, by omega⟩
    rw [outcome]
    apply Sent.whole
    · rw [wait_line]
      change ((link.write _).2.write frameTail).2.line.log = _
      rw [secondLog, firstLog, taken, closed]
      simp [Tape.taken, LinkSettings.framed]
    · simp [write, wait]
    · exact (wait_keeps _ _).settings.trans counted.settings
    · rw [wait_line]
      exact rest.wait _

-- What becomes of some writes, one after the other, on a line that takes this many
-- more: the record that they leave and the result. Contents stand at the even
-- places of a command's writes and tails at the odd ones.
inductive Ended (wire : List Bytes) (count : Nat) :
    List (Bytes × Except LineFault Unit) → Except Fault Unit → Prop where
  | whole : wire.length ≤ count → Ended wire count (wire.map Tape.taken) (.ok ())
  | cut {refused} (source) :
    wire[count]? = some refused →
    Ended wire count ((wire.take count).map Tape.taken ++ [(refused, .error source)])
      (.error (.transport (if count % 2 = 0 then "frame write" else "frame tail write") source))

theorem Ended.framed {settings : LinkSettings} {wire : List Bytes} {count : Nat}
    {log : List (Bytes × Except LineFault Unit)} {result : Except Fault Unit}
    (ended : Ended wire count log result) (content : Bytes) :
    Ended (settings.framed content ++ wire) (count + 2)
      ((settings.framed content).map Tape.taken ++ log) result := by
  cases ended with
  | whole enough =>
    rw [← List.map_append]
    apply Ended.whole
    simpa [LinkSettings.framed] using enough
  | @cut refused source last =>
    have place : (settings.framed content ++ wire)[count + 2]? = some refused := last
    have cut := Ended.cut source place
    rw [Nat.add_mod_right] at cut
    exact cut

theorem Ended.outcome {wire : List Bytes} {count : Nat} {log : List (Bytes × Except LineFault Unit)}
    {result : Except Fault Unit} (ended : Ended wire count log result) :
    (result = .ok () ↔ wire.length ≤ count) ∧
    (wire.length ≤ count → log = wire.map Tape.taken) ∧
    (count < wire.length → ∃ refused source, wire[count]? = some refused ∧
      result = .error (.transport (if count % 2 = 0 then "frame write" else "frame tail write") source) ∧
      log = (wire.take count).map Tape.taken ++ [(refused, .error source)]) := by
  cases ended with
  | whole enough => exact ⟨by simpa using enough, fun _ => rfl, fun short => absurd enough (Nat.not_le.mpr short)⟩
  | @cut refused source place =>
    obtain ⟨short, _⟩ := List.getElem?_eq_some_iff.mp place
    refine ⟨by simpa using short, fun enough => absurd enough (Nat.not_le.mpr short), fun _ => ?_⟩
    exact ⟨refused, source, place, rfl, rfl⟩

theorem transmitAll_ended {link : Link (Tape σ)} {count : Nat} (severs : Line.Severs count link.line.line)
    (contents : List Bytes) :
    (∃ log, (link.transmitAll contents).2.line.log = link.line.log ++ log ∧
      Ended (contents.flatMap link.settings.framed) count log (link.transmitAll contents).1) ∧
    (link.transmitAll contents).2.framesSent = link.framesSent + min count (2 * contents.length) / 2 := by
  induction contents generalizing link count with
  | nil => exact ⟨⟨[], (List.append_nil _).symm, .whole (Nat.zero_le _)⟩, by simp [transmitAll]⟩
  | cons content later ih =>
    rw [transmitAll_cons]
    have sent := transmit_sent severs content
    revert sent
    rcases link.transmit content with ⟨result, after⟩
    intro sent
    cases sent with
    | unheard logged counted =>
      refine ⟨⟨_, logged, .cut _ rfl⟩, counted.trans ?_⟩
      rw [List.length_cons]
      omega
    | unclosed logged counted =>
      refine ⟨⟨_, logged, .cut _ rfl⟩, counted.trans ?_⟩
      rw [List.length_cons]
      omega
    | @whole rest _ logged counted same severs =>
      obtain ⟨⟨log, grown, ended⟩, total⟩ := ih severs
      rw [same] at ended
      refine ⟨⟨_, ?_, ended.framed content⟩, ?_⟩
      · rw [grown, logged, List.append_assoc]
      · change (after.transmitAll later).2.framesSent = _
        rw [total, counted, List.length_cons]
        omega

end Link

namespace Command

def frameCount : Command → Nat
  | .drawRectangle .. | .drawSigned .. => 2
  | .drawCircle _ x y radius => (Circle.outline x y radius).length
  | .fillCircle _ x y radius => (Circle.filled x y radius).length
  | _ => 1

theorem frames_length {screen : Screen} {command : Command} {contents : List Bytes}
    (made : command.frames screen = .ok contents) : contents.length = command.frameCount := by
  rw [← (frames_normal made).length_eq]
  cases command <;> simp [normalForm, frameCount]

end Command

namespace Panel

theorem receive_number (panel : Panel) (bytes : Bytes) :
    ((panel.receive bytes).result = .ok () ↔ panel.refuses panel.tried = false) ∧
      (panel.receive bytes).line.refuses = panel.refuses ∧
      (panel.receive bytes).line.tried = panel.tried + 1 := by
  cases asked : panel.refuses panel.tried with
  | true =>
    rw [receive_refused asked]
    exact ⟨by simp, rfl, rfl⟩
  | false =>
    rw [receive_taken asked]
    exact ⟨by simp, rfl, rfl⟩

theorem severs {panel : Panel} {count : Nat}
    (pattern : ∀ number, panel.refuses (panel.tried + number) = false ↔ number < count) :
    Line.Severs count panel := by
  intro visits bytes
  induction visits generalizing panel count with
  | nil =>
    change (panel.receive bytes).result = .ok () ↔ 0 < count
    rw [(panel.receive_number bytes).1]
    exact pattern 0
  | cons visit later ih =>
    cases visit with
    | wait millis => exact ih pattern
    | write written =>
      obtain ⟨_, same, number⟩ := panel.receive_number written
      rw [Line.attempted, List.length_cons, ← Nat.lt_sub_iff_add_lt]
      apply ih
      intro more
      change (panel.receive written).line.refuses ((panel.receive written).line.tried + more) = false ↔ _
      rw [same, number, Nat.add_assoc, pattern, Nat.add_comm 1 more, Nat.lt_sub_iff_add_lt]

end Panel

namespace Display

variable {σ : Type} [Line σ]

def taped (display : Display σ) : Display (Tape σ) := ⟨display.link.taped, display.settings⟩

def attempts (display : Display σ) (command : Command) : List (Bytes × Except LineFault Unit) :=
  (display.taped.draw command).2.link.line.log

theorem draw_taped {display : Display σ} {command : Command} {contents : List Bytes}
    (made : command.frames display.settings.screen = .ok contents) :
    let run := display.link.taped.transmitAll contents
    display.draw command = (run.1, { display with link := run.2.untaped }) ∧
      display.attempts command = run.2.line.log := by
  intro run
  have sent : display.link.transmitAll contents = (run.1, run.2.untaped) :=
    display.link.taped.transmitAll_untaped contents
  have beside : display.taped.draw command = display.taped.transmit contents := draw_frames made
  constructor
  · rw [draw_frames made, transmit, sent]
  · rw [attempts, beside]
    rfl

-- A command that can be made is cut at the write that the line refuses: what stands
-- before it is out, nothing behind it is tried, and a frame counts only with its tail.
theorem draw_truncated {display : Display σ} {command : Command} {contents : List Bytes} {count : Nat}
    (made : command.frames display.settings.screen = .ok contents)
    (severs : Line.Severs count display.link.line) :
    let wire := contents.flatMap display.link.settings.framed
    let result := (display.draw command).1
    let after := (display.draw command).2
    contents.length = command.frameCount ∧
    (result = .ok () ↔ 2 * contents.length ≤ count) ∧
    (2 * contents.length ≤ count → display.attempts command = wire.map Tape.taken) ∧
    (count < 2 * contents.length → ∃ refused source, wire[count]? = some refused ∧
      result =
        .error (.transport (if count % 2 = 0 then "frame write" else "frame tail write") source) ∧
      display.attempts command = (wire.take count).map Tape.taken ++ [(refused, .error source)]) ∧
    after.link.framesSent = display.link.framesSent + min count (2 * contents.length) / 2 ∧
    after.settings = display.settings ∧ after.link.settings = display.link.settings ∧
    after.link.state = display.link.state := by
  intro wire result after
  obtain ⟨drawn, attempted⟩ := draw_taped made
  have severed : Line.Severs count display.link.taped.line.line := severs
  obtain ⟨⟨log, recorded, ended⟩, counted⟩ := Link.transmitAll_ended severed contents
  obtain ⟨own, kept⟩ := display.draw_keeps command
  have size : wire.length = 2 * contents.length := by
    simp [wire, LinkSettings.framed, List.length_flatMap, Nat.mul_comm]
  have came : (display.link.taped.transmitAll contents).1 = result := congrArg Prod.fst drawn.symm
  have tried : log = display.attempts command := (attempted.trans recorded).symm
  have sent : after.link.framesSent = (display.link.taped.transmitAll contents).2.framesSent :=
    congrArg (fun run => run.2.link.framesSent) drawn
  rw [came, tried] at ended
  change Link.Ended wire count _ _ at ended
  have outcome := ended.outcome
  rw [size] at outcome
  obtain ⟨whole, complete, cut⟩ := outcome
  exact ⟨Command.frames_length made, whole, complete, cut, sent.trans counted, own, kept.settings, kept.state⟩

theorem rectangle_cut :
    let panel : Panel := { refuses := fun number => decide (3 ≤ number) }
    let display : Display Panel := ⟨.ofLine panel { head := some 0xAA }, {}⟩
    let rectangle : Command := .drawRectangle .filled Color.yellow 10 20 30 40
    let contents : List Bytes := [[0x40, 0xFF, 0x0F, 0xFF, 0xFF], [0x05, 0x01, 0, 10, 0, 20, 0, 30, 0, 40]]
    rectangle.frames display.settings.screen = .ok contents ∧ Line.Severs 3 panel ∧
      (∃ source, (display.draw rectangle).1 = .error (.transport "frame tail write" source) ∧
        display.attempts rectangle =
          [Tape.taken [0xAA, 0x40, 0xFF, 0x0F, 0xFF, 0xFF], Tape.taken frameTail,
            Tape.taken [0xAA, 0x05, 0x01, 0, 10, 0, 20, 0, 30, 0, 40], (frameTail, .error source)]) ∧
      (display.draw rectangle).2.link.framesSent = 1 := by
  intro panel display rectangle contents
  have made : rectangle.frames display.settings.screen = .ok contents := by rfl
  have severs : Line.Severs 3 panel := Panel.severs fun number => by simp [panel]
  have refuses : Line.Severs 3 display.link.line := severs
  obtain ⟨_, _, _, cut, counted, _⟩ := draw_truncated made refuses
  obtain ⟨refused, source, place, result, tried⟩ := cut (by decide)
  cases place
  exact ⟨made, severs, ⟨source, result, tried⟩, counted.trans (by decide)⟩

end Display

end SerialPanel
