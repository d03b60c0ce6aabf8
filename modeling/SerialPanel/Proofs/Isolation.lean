import SerialPanel.Proofs.Truncation
namespace SerialPanel

namespace Instruction

theorem decode_opcode {opcode : UInt8} {rest : Bytes} {instruction : Instruction}
    (read : decode (opcode :: rest) = some instruction) (other : instruction ≠ .handshake) :
    opcode ≠ 0x00 ∧ opcode ≠ 0xAA ∧ opcode ≠ 0xCC := by
  refine ⟨?_, ?_, ?_⟩
  · rintro rfl
    obtain ⟨_, _, named⟩ := Option.map_eq_some_iff.mp read
    exact other named.symm
  · rintro rfl
    cases read
  · rintro rfl
    cases read

end Instruction

structure Drawing (content : Bytes) : Prop where
  closed : content ≠ frameTail
  mute : ∀ head : Option UInt8, head.toList ++ content ≠ [0x00] ∧ head.toList ++ content ≠ [0xAA, 0x00]

namespace Drawing

theorem ofDecode {content : Bytes} {instruction : Instruction}
    (read : Instruction.decode content = some instruction) (other : instruction ≠ .handshake) :
    Drawing content := by
  cases content with
  | nil => cases read
  | cons opcode rest =>
    obtain ⟨handshake, head, tail⟩ := Instruction.decode_opcode read other
    constructor
    · intro same
      exact tail (List.cons.inj same).1
    · intro before
      cases before with
      | none => simp [handshake, head]
      | some first => simp [handshake]

theorem framed {content : Bytes} (drawing : Drawing content) (settings : LinkSettings) :
    ∀ write ∈ settings.framed content, write ≠ [0x00] ∧ write ≠ [0xAA, 0x00] := by
  intro write written
  rcases List.mem_pair.mp written with rfl | rfl
  · exact drawing.mute settings.head
  · decide

end Drawing

namespace Command

theorem normalForm_draws {screen : Screen} {command : Command} {instruction : Instruction}
    (drawn : instruction ∈ command.normalForm screen) : instruction ≠ .handshake := by
  rintro rfl
  cases command <;> simp [normalForm] at drawn

theorem frames_drawing {screen : Screen} {command : Command} {contents : List Bytes}
    (made : command.frames screen = .ok contents) : ∀ content ∈ contents, Drawing content := by
  intro content sent
  have read : Instruction.decode content ∈ (command.normalForm screen).map some := by
    rw [← instructions_read (frames_normal made)]
    exact List.mem_map_of_mem sent
  obtain ⟨instruction, planned, decoded⟩ := List.mem_map.mp read
  exact .ofDecode decoded.symm (normalForm_draws planned)

end Command

namespace Link

structure Drawn (before after : Link Panel) : Prop where
  only : after = { before with
    line := { before.line with log := after.line.log, tried := after.line.tried }
    framesSent := after.framesSent }
  recorded : ∃ taken, after.line.writes = before.line.writes ++ taken ∧
    ∀ write ∈ taken, write ≠ [0x00] ∧ write ≠ [0xAA, 0x00]

theorem Drawn.refl (link : Link Panel) : Drawn link link :=
  ⟨rfl, [], (List.append_nil _).symm, by simp⟩

theorem Drawn.trans {first second third : Link Panel} (one : Drawn first second) (two : Drawn second third) :
    Drawn first third := by
  obtain ⟨taken, grown, mute⟩ := one.recorded
  obtain ⟨more, grownMore, muteMore⟩ := two.recorded
  constructor
  · rw [two.only, one.only]
  · refine ⟨taken ++ more, ?_, List.forall_mem_append.mpr ⟨mute, muteMore⟩⟩
    rw [grownMore, grown, List.append_assoc]

theorem transmit_drawn (link : Link Panel) {content : Bytes} (drawing : Drawing content) :
    Drawn link (link.transmit content).2 := by
  have plain := drawing.framed link.settings
  have mute : Panel.isHandshake (link.settings.headed content) = false := by
    simpa [Panel.isHandshake, Opcode.handshake, frameHead] using plain _ (.head _)
  cases first : link.line.refuses link.line.tried with
  | true =>
    rw [transmit_unheard first]
    exact ⟨rfl, [], (List.append_nil _).symm, by simp⟩
  | false =>
    cases second : link.line.refuses (link.line.tried + 1) with
    | true =>
      rw [transmit_unclosed first second, heard_mute mute, Panel.took_mute mute]
      refine ⟨rfl, [link.settings.headed content], List.reverse_cons .., ?_⟩
      intro write written
      cases List.mem_singleton.mp written
      exact plain _ (.head _)
    | false =>
      rw [transmit_whole first second, heard_mute mute, Panel.took_mute mute, Panel.took_mute rfl]
      exact ⟨rfl, link.settings.framed content, by simp [Panel.writes, LinkSettings.framed], plain⟩

theorem transmitAll_drawn (link : Link Panel) {contents : List Bytes}
    (drawing : ∀ content ∈ contents, Drawing content) : Drawn link (link.transmitAll contents).2 := by
  induction contents generalizing link with
  | nil => exact .refl link
  | cons content later ih =>
    obtain ⟨own, others⟩ := List.forall_mem_cons.mp drawing
    have one := link.transmit_drawn own
    rw [transmitAll_cons]
    cases (link.transmit content).1 with
    | error fault => exact one
    | ok _ => exact one.trans (ih _ others)

section

variable {σ : Type} [Line σ]

theorem wait_logged (link : Link (Tape σ)) (millis : UInt64) : (link.wait millis).line.log = link.line.log := by
  rw [wait_line]
  rfl

theorem transmit_tried (link : Link (Tape σ)) (content : Bytes) :
    ∃ log, (link.transmit content).2.line.log = link.line.log ++ log ∧
      ∀ attempt ∈ log, attempt.1 ∈ link.settings.framed content := by
  have firstLog := link.write_logged (link.settings.headed content)
  have secondLog := (link.write (link.settings.headed content)).2.write_logged frameTail
  rw [firstLog, List.append_assoc] at secondLog
  obtain ⟨_, _, outcome⟩ | ⟨_, _, _, outcome⟩ | ⟨_, _, outcome⟩ := link.transmit_cases content
  · rw [outcome]
    exact ⟨_, firstLog, by simp [LinkSettings.framed]⟩
  · rw [outcome]
    exact ⟨_, secondLog, by simp [LinkSettings.framed]⟩
  · rw [outcome]
    exact ⟨_, (wait_logged _ _).trans secondLog, by simp [LinkSettings.framed]⟩

theorem transmitAll_tried (link : Link (Tape σ)) (contents : List Bytes) :
    ∃ log, (link.transmitAll contents).2.line.log = link.line.log ++ log ∧
      ∀ attempt ∈ log, attempt.1 ∈ contents.flatMap link.settings.framed := by
  induction contents generalizing link with
  | nil => exact ⟨[], (List.append_nil _).symm, by simp⟩
  | cons content later ih =>
    obtain ⟨first, grown, own⟩ := link.transmit_tried content
    have same := (link.transmit_keeps content).settings
    rw [transmitAll_cons, List.flatMap_cons]
    cases (link.transmit content).1 with
    | error fault => exact ⟨first, grown, fun attempt tried => List.mem_append_left _ (own attempt tried)⟩
    | ok _ =>
      obtain ⟨rest, more, others⟩ := ih (link.transmit content).2
      rw [same] at others
      refine ⟨first ++ rest, ?_, List.forall_mem_append.mpr ⟨?_, ?_⟩⟩
      · change ((link.transmit content).2.transmitAll later).2.line.log = _
        rw [more, grown, List.append_assoc]
      · exact fun attempt tried => List.mem_append_left _ (own attempt tried)
      · exact fun attempt tried => List.mem_append_right _ (others attempt tried)

end

-- Two links of which one has no head and the other this one, and that refuse the same
-- of the writes still to come. Nothing else of them need agree.
structure Twins (head : UInt8) (first second : Link Panel) : Prop where
  bare : first.settings.head = none
  headed : second.settings.head = some head
  refused : ∀ number,
    first.line.refuses (first.line.tried + number) = second.line.refuses (second.line.tried + number)

-- A content carries the head and a tail does not. No content of a command reads
-- like a tail, so that the two are told apart.
def behind (head : UInt8) (write : Bytes) : Bytes := if write = frameTail then write else head :: write

structure Mirrored (head : UInt8) (first second one two : Link Panel) : Prop where
  twins : Twins head one two
  counted : ∃ count, one.framesSent = first.framesSent + count ∧ two.framesSent = second.framesSent + count
  written : ∃ taken, one.line.writes = first.line.writes ++ taken ∧
    two.line.writes = second.line.writes ++ taken.map (behind head)

theorem Mirrored.refl {head : UInt8} {first second : Link Panel} (twins : Twins head first second) :
    Mirrored head first second first second :=
  ⟨twins, ⟨0, rfl, rfl⟩, [], (List.append_nil _).symm, (List.append_nil _).symm⟩

theorem Mirrored.trans {head : UInt8} {first second one two last final : Link Panel}
    (before : Mirrored head first second one two) (after : Mirrored head one two last final) :
    Mirrored head first second last final := by
  obtain ⟨count, firstCount, secondCount⟩ := before.counted
  obtain ⟨taken, firstTaken, secondTaken⟩ := before.written
  obtain ⟨more, firstMore, secondMore⟩ := after.counted
  obtain ⟨others, firstOthers, secondOthers⟩ := after.written
  refine ⟨after.twins, ⟨count + more, by omega, by omega⟩, taken ++ others, ?_, ?_⟩
  · rw [firstOthers, firstTaken, List.append_assoc]
  · rw [secondOthers, secondTaken, List.map_append, List.append_assoc]

theorem fate_behind {content : Bytes} (closed : content ≠ frameTail) (head : UInt8) (fate : Fate) :
    fate.writes (head :: content) = (fate.writes content).map (behind head) := by
  cases fate <;> simp [Fate.writes, behind, closed]

theorem transmit_mirrored {head : UInt8} {first second : Link Panel} (twins : Twins head first second)
    {content : Bytes} (closed : content ≠ frameTail) :
    (first.transmit content).1 = (second.transmit content).1 ∧
      Mirrored head first second (first.transmit content).2 (second.transmit content).2 := by
  obtain ⟨firstResult, one⟩ := first.transmit_fated content
  obtain ⟨secondResult, two⟩ := second.transmit_fated content
  have same : first.fate = second.fate := by
    have content := twins.refused 0
    have tail := twins.refused 1
    simp only [Nat.add_zero] at content
    simp only [fate, Fate.ofWrites, content, tail]
  have bare : first.settings.headed content = content := by simp [LinkSettings.headed, twins.bare]
  have headed : second.settings.headed content = head :: content := by
    simp [LinkSettings.headed, twins.headed]
  rw [← same] at two secondResult
  refine ⟨firstResult.trans secondResult.symm, ⟨?_, ?_, ?_⟩, ⟨_, one.framesSent, two.framesSent⟩, ?_⟩
  · rw [one.settings, twins.bare]
  · rw [two.settings, twins.headed]
  · intro number
    rw [one.refuses, two.refuses, one.tried, two.tried, Nat.add_assoc, Nat.add_assoc]
    exact twins.refused _
  · refine ⟨first.fate.writes content, ?_, ?_⟩
    · rw [one.writes, bare]
    · rw [two.writes, headed, fate_behind closed]

theorem transmitAll_mirrored {head : UInt8} {first second : Link Panel} (twins : Twins head first second)
    {contents : List Bytes} (closed : ∀ content ∈ contents, content ≠ frameTail) :
    (first.transmitAll contents).1 = (second.transmitAll contents).1 ∧
      Mirrored head first second (first.transmitAll contents).2 (second.transmitAll contents).2 := by
  induction contents generalizing first second with
  | nil => exact ⟨rfl, .refl twins⟩
  | cons content later ih =>
    obtain ⟨own, others⟩ := List.forall_mem_cons.mp closed
    obtain ⟨same, one⟩ := transmit_mirrored twins own
    rw [transmitAll_cons, transmitAll_cons, ← same]
    cases (first.transmit content).1 with
    | error fault => exact ⟨rfl, one⟩
    | ok _ =>
      obtain ⟨results, rest⟩ := ih one.twins others
      exact ⟨results, one.trans rest⟩

end Link

namespace Display

theorem draw_drawn (display : Display Panel) (command : Command) :
    (display.draw command).2 = { display with link := (display.draw command).2.link } ∧
      Link.Drawn display.link (display.draw command).2.link := by
  cases made : command.frames display.settings.screen with
  | error fault =>
    rw [draw_unmade made]
    exact ⟨rfl, .refl _⟩
  | ok contents =>
    rw [draw_frames made]
    exact ⟨rfl, display.link.transmitAll_drawn (Command.frames_drawing made)⟩

theorem attempts_drawing {σ : Type} [Line σ] (display : Display σ) (command : Command) :
    ∀ attempt ∈ display.attempts command, attempt.1 ≠ [0x00] ∧ attempt.1 ≠ [0xAA, 0x00] := by
  intro attempt tried
  cases made : command.frames display.settings.screen with
  | error fault =>
    have nothing : display.taped.draw command = (.error fault, display.taped) := draw_unmade made
    rw [attempts, nothing] at tried
    cases tried
  | ok contents =>
    obtain ⟨log, recorded, framed⟩ := display.link.taped.transmitAll_tried contents
    rw [(draw_taped made).2, recorded] at tried
    obtain ⟨content, sent, written⟩ := List.mem_flatMap.mp (framed attempt tried)
    exact (Command.frames_drawing made content sent).framed _ _ written

theorem draw_mirrored {head : UInt8} {first second : Display Panel}
    (screen : first.settings.screen = second.settings.screen) (twins : Link.Twins head first.link second.link)
    (command : Command) :
    (first.draw command).1 = (second.draw command).1 ∧
      Link.Mirrored head first.link second.link (first.draw command).2.link (second.draw command).2.link := by
  cases made : command.frames first.settings.screen with
  | error fault =>
    rw [draw_unmade made, draw_unmade (screen ▸ made)]
    exact ⟨rfl, .refl twins⟩
  | ok contents =>
    rw [draw_frames made, draw_frames (screen ▸ made)]
    exact Link.transmitAll_mirrored twins fun content sent => (Command.frames_drawing made content sent).closed

def drawEach {σ : Type} [Line σ] (display : Display σ) :
    List Command → List (Except Fault Unit) × Display σ
  | [] => ([], display)
  | command :: later =>
    let (result, next) := display.draw command
    let (results, last) := next.drawEach later
    (result :: results, last)

theorem drawEach_mirrored {head : UInt8} {first second : Display Panel}
    (screen : first.settings.screen = second.settings.screen) (twins : Link.Twins head first.link second.link)
    (commands : List Command) :
    (first.drawEach commands).1 = (second.drawEach commands).1 ∧
      Link.Mirrored head first.link second.link (first.drawEach commands).2.link
        (second.drawEach commands).2.link := by
  induction commands generalizing first second with
  | nil => exact ⟨rfl, .refl twins⟩
  | cons command later ih =>
    obtain ⟨same, one⟩ := draw_mirrored screen twins command
    have still : (first.draw command).2.settings.screen = (second.draw command).2.settings.screen := by
      rw [(first.draw_keeps command).1, (second.draw_keeps command).1, screen]
    obtain ⟨results, rest⟩ := ih still one.twins
    exact ⟨List.cons_eq_cons.mpr ⟨same, results⟩, one.trans rest⟩

-- Drawing does not touch what the handshake works with, whatever becomes of it; and
-- two displays that differ in all of that and in the head are drawn on alike.
theorem draw_isolated :
    (∀ (display : Display Panel) (command : Command),
      let after := (display.draw command).2
      (after = { display with link := { display.link with
        line := { display.link.line with log := after.link.line.log, tried := after.link.line.tried }
        framesSent := after.link.framesSent } }) ∧
      (∃ taken, after.link.line.writes = display.link.line.writes ++ taken ∧
        ∀ write ∈ taken, write ≠ [0x00] ∧ write ≠ [0xAA, 0x00]) ∧
      (∀ attempt ∈ display.attempts command, attempt.1 ≠ [0x00] ∧ attempt.1 ≠ [0xAA, 0x00])) ∧
    (∀ (head : UInt8) (first second : Display Panel) (commands : List Command),
      first.settings.screen = second.settings.screen → Link.Twins head first.link second.link →
      (first.drawEach commands).1 = (second.drawEach commands).1 ∧
      (∃ count, (first.drawEach commands).2.link.framesSent = first.link.framesSent + count ∧
        (second.drawEach commands).2.link.framesSent = second.link.framesSent + count) ∧
      (∃ taken, (first.drawEach commands).2.link.line.writes = first.link.line.writes ++ taken ∧
        (second.drawEach commands).2.link.line.writes =
          second.link.line.writes ++ taken.map (Link.behind head))) := by
  constructor
  · intro display command after
    obtain ⟨own, drawn⟩ := display.draw_drawn command
    refine ⟨own.trans ?_, drawn.recorded, display.attempts_drawing command⟩
    exact congrArg (fun link => { display with link }) drawn.only
  · intro head first second commands screen twins
    obtain ⟨results, mirrored⟩ := drawEach_mirrored screen twins commands
    exact ⟨results, mirrored.counted, mirrored.written⟩

theorem two_displays_alike :
    let first : Display Panel := ⟨.ofLine { refuses := fun number => decide (number = 3) } {}, {}⟩
    let second : Display Panel :=
      { settings := {}
        link :=
          { line :=
              { log := [[0x3D]], replies := [acknowledgement], tried := 10
                refuses := fun number => decide (number = 13) }
            settings := { head := some 0xAA }, state := .ready, received := [0x4F], framesSent := 7 } }
    let commands : List Command :=
      [.refresh, .drawPoint Color.white 1 1 (-1) 0, .drawRectangle .filled Color.yellow 10 20 30 40, .refresh]
    Link.Twins 0xAA first.link second.link ∧
      (second.drawEach commands).1 =
        [.ok (), .error (.fieldOverflow .word (-1)),
          .error (.transport "frame tail write" Panel.disconnected), .ok ()] ∧
      (second.drawEach commands).2.link.framesSent = 9 ∧
      (second.drawEach commands).2.link.line.writes =
        [[0x3D], [0xAA, 0x3D], frameTail, [0xAA, 0x40, 0xFF, 0x0F, 0xFF, 0xFF], [0xAA, 0x3D], frameTail] ∧
      (∀ attempt ∈ second.attempts .refresh, attempt.1 ≠ [0x00] ∧ attempt.1 ≠ [0xAA, 0x00]) := by
  intro first second commands
  have twins : Link.Twins 0xAA first.link second.link := by
    refine ⟨rfl, rfl, fun number => ?_⟩
    simp [first, second, Link.ofLine]
    omega
  have results : (first.drawEach commands).1 =
      [.ok (), .error (.fieldOverflow .word (-1)),
        .error (.transport "frame tail write" Panel.disconnected), .ok ()] := by rfl
  have writes : (first.drawEach commands).2.link.line.writes =
      [[0x3D], frameTail, [0x40, 0xFF, 0x0F, 0xFF, 0xFF], [0x3D], frameTail] := by decide +kernel
  have sent : (first.drawEach commands).2.link.framesSent = 2 := by decide +kernel
  obtain ⟨alone, alike⟩ := draw_isolated
  obtain ⟨same, ⟨count, counted, countedToo⟩, taken, written, writtenToo⟩ := alike 0xAA first second commands rfl twins
  obtain ⟨_, _, mute⟩ := alone second .refresh
  have record : taken = [[0x3D], frameTail, [0x40, 0xFF, 0x0F, 0xFF, 0xFF], [0x3D], frameTail] :=
    written.symm.trans writes
  have grown : count = 2 := by
    change _ = 0 + count at counted
    omega
  refine ⟨twins, same.symm.trans results, ?_, ?_, mute⟩
  · rw [countedToo, grown]
  · rw [writtenToo, record]
    decide +kernel

end Display

end SerialPanel
