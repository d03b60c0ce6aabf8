import SerialPanel.Proofs.Dispatch
import SerialPanel.Proofs.Framing
import SerialPanel.Proofs.Placement
namespace SerialPanel

def Continued : Bytes → Prop
  | [] => True
  | byte :: later => (0xC0 ≤ byte → ∃ next ∈ later.head?, 0x80 ≤ next) ∧ Continued later

namespace Continued

theorem append {first second : Bytes} (one : Continued first) (two : Continued second) :
    Continued (first ++ second) := by
  induction first with
  | nil => exact two
  | cons byte later ih =>
    obtain ⟨own, others⟩ := one
    refine ⟨fun leads => ?_, ih others⟩
    obtain ⟨next, follows, carries⟩ := own leads
    refine ⟨next, ?_, carries⟩
    change next ∈ (later ++ second).head?
    rw [List.head?_append, Option.mem_def.mp follows]
    rfl

theorem closes_nowhere {text : Bytes} (continued : Continued text) : ¬[0x33, 0xC3, 0x3C] <+: text := by
  rintro ⟨rest, rfl⟩
  obtain ⟨_, leads, _⟩ := continued
  obtain ⟨next, follows, carries⟩ := leads (by decide)
  cases follows
  exact absurd carries (by decide)

theorem tailless {text : Bytes} (continued : Continued text) : ¬frameTail <:+: text := by
  induction text with
  | nil => decide
  | cons byte later ih =>
    rw [List.infix_cons_iff]
    rintro (⟨rest, begins⟩ | inside)
    · cases begins
      obtain ⟨next, follows, carries⟩ := continued.1 (by decide)
      cases follows
      exact absurd carries (by decide)
    · exact ih continued.2 inside

end Continued

theorem char_continued (char : Char) : Continued (String.utf8EncodeChar char) := by
  fun_cases String.utf8EncodeChar char
  all_goals
    simp [Continued, UInt8.le_iff_toNat_le]
    omega

theorem utf8_continued (text : String) : Continued (utf8 text) := by
  unfold utf8
  induction text.toList with
  | nil => trivial
  | cons char later ih => exact (char_continued char).append ih

theorem utf8_length_le (text : String) : (utf8 text).length ≤ 4 * text.length := by
  unfold utf8
  rw [← String.length_toList]
  induction text.toList with
  | nil => simp
  | cons char later ih =>
    have own := char.utf8Size_le_four
    rw [List.flatMap_cons, List.length_append, List.length_cons, String.length_utf8EncodeChar]
    omega

theorem small_not_in_tail {byte : UInt8} (small : byte < 0x33) : byte ∉ frameTail := by
  intro inside
  simp only [frameTail, List.mem_cons, List.not_mem_nil, or_false] at inside
  rcases inside with rfl | rfl | rfl | rfl
  all_goals exact absurd small (by decide)

theorem lettering_tailless {mode ink lower ground darker across left along above : UInt8} {text : Bytes}
    (flagged : mode ≠ 0xCC) (colored : [ink, lower, ground, darker] ≠ frameTail) (onScreen : across < 0x33)
    (onScreenToo : along < 0x33) (continued : Continued text) :
    ¬frameTail <:+: [0x11, mode, ink, lower, ground, darker, across, left, along, above] ++ text := by
  have own := continued.tailless
  have closing := continued.closes_nowhere
  have first := small_not_in_tail onScreen
  have second := small_not_in_tail onScreenToo
  unfold frameTail at *
  -- One case for each byte at which a tail could begin, and one for the text.
  simp only [List.cons_append, List.nil_append, List.infix_cons_iff, List.cons_prefix_cons]
  grind

theorem headed_tailless (settings : LinkSettings) {content : Bytes} (tailless : ¬frameTail <:+: 0x11 :: content) :
    ¬frameTail <:+: settings.headed (0x11 :: content) := by
  unfold LinkSettings.headed
  cases settings.head with
  | none => exact tailless
  | some head =>
    change ¬frameTail <:+: head :: 0x11 :: content
    rw [List.infix_cons_iff]
    rintro (begins | inside)
    · simp [frameTail] at begins
    · exact tailless inside

theorem word_spelled {value other : UInt16} (same : bigEndian 2 value.toNat = bigEndian 2 other.toNat) :
    value = other := by
  have read := congrArg fromBigEndian same
  rw [fromBigEndian_bigEndian _ _ value.toNat_lt, fromBigEndian_bigEndian _ _ other.toNat_lt] at read
  exact UInt16.toNat_inj.mp read

theorem high_byte_small {value : Int} (low : value < 0x3300) : UInt8.ofNat (value.toNat / 256) < 0x33 := by
  rw [UInt8.lt_iff_toNat_lt, UInt8.toNat_ofNat']
  simp
  omega

namespace Instruction

theorem mode_not_tail (mode : TextMode) : mode.toByte ≠ 0xCC := by
  intro spelled
  have read := mode.ofByte?_toByte
  rw [spelled] at read
  cases (show none = some mode from read)

theorem text_tailless {mode : TextMode} {color background : Color} {x y : Int} (left : x < 0x3300) (high : y < 0x3300)
    (plain : ¬(color = ⟨0xCC33⟩ ∧ background = ⟨0xC33C⟩)) (words : String) :
    ¬frameTail <:+: textHeader mode color background x y ++ utf8 words := by
  refine lettering_tailless (mode_not_tail mode) ?_ (high_byte_small left) (high_byte_small high)
    (utf8_continued words)
  intro spelled
  have ink : bigEndian 2 color.value.toNat = bigEndian 2 (0xCC33 : UInt16).toNat := congrArg (List.take 2) spelled
  have ground : bigEndian 2 background.value.toNat = bigEndian 2 (0xC33C : UInt16).toNat :=
    congrArg (List.drop 2) spelled
  apply plain
  rw [← word_spelled ink, ← word_spelled ground]
  exact ⟨rfl, rfl⟩

end Instruction

theorem utf8_injective {first second : String} (same : utf8 first = utf8 second) : first = second := by
  have read := Instruction.Decode.words_read first
  have readToo := Instruction.Decode.words_read second
  rw [show (Field.text first).bytes = (Field.text second).bytes from same, readToo] at read
  exact (Option.some.inj read).symm

theorem onWire_iff {coordinate : Int32} : Command.OnWire coordinate ↔ ¬OffWire coordinate.toInt := by
  unfold Command.OnWire OffWire
  omega

namespace Display

variable {σ : Type} [Line σ]

theorem text_wrote {display : Display σ} (accepts : Line.Accepts display.link.line) (showBackground : Bool)
    (font : Font) (color background : Color) {x y : Int32} (across : Command.OnWire x) (along : Command.OnWire y)
    (words : String) :
    display.Wrote (.drawText showBackground font color background x y words)
      [Instruction.textHeader (.adjusted showBackground font) color background x.toInt y.toInt ++
        utf8 (String.ofList (words.toList.take maxTextLength))] := by
  have found : [x.toInt, y.toInt].find? (fun place => OffWire place) = none := by
    simp [onWire_iff.mp across, onWire_iff.mp along]
  apply draw_wrote accepts
  rw [Command.text_frames, found]

-- Whatever is written, a text is sent as ten bytes that do not depend on it and as many
-- of its first characters as there is room for, each of them whole. Where its place is on
-- the screen and its colours are not those that spell a tail, nothing that is written ends
-- the frame early.
theorem text_framed {display : Display σ} (accepts : Line.Accepts display.link.line) (showBackground : Bool)
    (font : Font) (color background : Color) {x y : Int32} (across : Command.OnWire x) (along : Command.OnWire y) :
    let header := Instruction.textHeader (.adjusted showBackground font) color background x.toInt y.toInt
    let draw (words : String) : Command := .drawText showBackground font color background x y words
    let shown (words : String) : String := String.ofList (words.toList.take 40)
    header.length = 10 ∧ ∀ words : String,
      display.Wrote (draw words) [header ++ utf8 (shown words)] ∧
      (shown words).length = min 40 words.length ∧
      String.fromUTF8? ⟨(utf8 (shown words)).toArray⟩ = some (shown words) ∧
      (utf8 (shown words)).length ≤ 160 ∧
      (∀ other, display.attempts (draw other) = display.attempts (draw words) ↔
        other.toList.take 40 = words.toList.take 40) ∧
      (x.toInt < 0x3300 → y.toInt < 0x3300 → ¬(color = ⟨0xCC33⟩ ∧ background = ⟨0xC33C⟩) →
        ∀ before after, (display.attempts (draw words)).flatMap Prod.fst = before ++ (frameTail ++ after) ↔
          before = display.link.settings.headed (header ++ utf8 (shown words)) ∧ after = []) := by
  intro header draw shown
  refine ⟨Instruction.textHeader_length .., fun words => ?_⟩
  have wrote : ∀ words, display.Wrote (draw words) [header ++ utf8 (shown words)] :=
    text_wrote accepts showBackground font color background across along
  have counted : (shown words).length = min 40 words.length := by
    rw [String.length_ofList, List.length_take, String.length_toList]
  refine ⟨wrote words, counted, Instruction.Decode.words_read (shown words), ?_, fun other => ?_,
    fun left high plain before after => ?_⟩
  · have room := utf8_length_le (shown words)
    omega
  · rw [(wrote other).attempts, (wrote words).attempts]
    constructor
    · intro same
      have first : display.link.settings.headed (header ++ utf8 (shown other)) =
          display.link.settings.headed (header ++ utf8 (shown words)) :=
        congrArg Prod.fst (List.cons_eq_cons.mp same).1
      have texts := utf8_injective (List.append_cancel_left (List.append_cancel_left first))
      exact String.ofList_inj.mp texts
    · intro same
      rw [show shown other = shown words from congrArg String.ofList same]
  · have tailless : ¬frameTail <:+: display.link.settings.headed (header ++ utf8 (shown words)) :=
      headed_tailless display.link.settings (Instruction.text_tailless left high plain (shown words))
    rw [(wrote words).attempts]
    exact tail_once tailless before after

theorem text_framed_beside_tail :
    let display : Display Panel := ⟨.ofLine {} { head := some 0xCC }, {}⟩
    let draw (words : String) : Command := .drawText false .cell8x16 ⟨0xCC33⟩ Color.white 0 204 words
    let content : Bytes := [0xCC, 0x11, 0x81, 0xCC, 0x33, 0xFF, 0xFF, 0, 0, 0, 0xCC, 0x33, 0xC3, 0x83, 0x3C]
    let below : Command := .drawText false .cell8x16 Color.white Color.black 204 0x33C3 "<x"
    Line.Accepts display.link.line ∧
      display.attempts (draw "3Ã<") = [content, frameTail].map Tape.taken ∧
      (∀ before after, content ++ frameTail = before ++ (frameTail ++ after) ↔ before = content ∧ after = []) ∧
      display.attempts (draw (String.ofList (List.replicate 41 '€'))) =
        display.attempts (draw (String.ofList (List.replicate 40 '€' ++ ['x']))) ∧
      (display.attempts below).flatMap Prod.fst =
        [0xCC, 0x11, 0x81, 0xFF, 0xFF, 0, 0, 0] ++ (frameTail ++ 0x78 :: frameTail) := by
  intro display draw content below
  have accepts : Line.Accepts display.link.line := Panel.Open.accepts fun _ _ => rfl
  have across : Command.OnWire 0 := by decide
  have along : Command.OnWire 204 := by decide
  obtain ⟨_, framed⟩ := text_framed accepts false .cell8x16 ⟨0xCC33⟩ Color.white across along
  obtain ⟨wrote, _, _, _, _, once⟩ := framed "3Ã<"
  obtain ⟨_, _, _, _, alike, _⟩ := framed (String.ofList (List.replicate 40 '€' ++ ['x']))
  have sent : display.attempts (draw "3Ã<") = [content, frameTail].map Tape.taken := wrote.attempts
  have ends := once (by decide) (by decide) (by decide)
  rw [sent] at ends
  have cut : (String.ofList (List.replicate 41 '€')).toList.take 40 =
      (String.ofList (List.replicate 40 '€' ++ ['x'])).toList.take 40 := by
    rw [String.toList_ofList, String.toList_ofList, List.take_replicate, List.take_left' List.length_replicate]
    rfl
  exact ⟨accepts, sent, ends, (alike _).mpr cut, rfl⟩

end Display

end SerialPanel
