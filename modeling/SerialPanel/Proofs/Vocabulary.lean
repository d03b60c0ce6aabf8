import SerialPanel.Proofs.Acceptance
import SerialPanel.Proofs.Reading
namespace SerialPanel

theorem instructions_read {instructions : List Instruction} {contents : List Bytes}
    (made : List.Forall₂ (fun instruction content => instruction.encode = .ok content) instructions contents) :
    contents.map Instruction.decode = instructions.map some := by
  induction made with
  | nil => rfl
  | cons first _ ih => rw [List.map_cons, List.map_cons, Instruction.decode_encode first, ih]

namespace Command

-- What the panel is told by a command: arguments that the wire does not carry are
-- gone, and those that the library bends are bent.
def normalForm (screen : Screen) : Command → List Instruction
  | .setPalette background foreground => [.palette foreground background]
  | .clearScreen color => [.clear color]
  | .drawPoint color width height x y => [.point color width height x.toInt y.toInt]
  | .drawLine color x0 y0 x1 y1 => [.line color x0.toInt y0.toInt x1.toInt y1.toInt]
  | .drawRectangle mode color x0 y0 x1 y1 =>
    [.palette color ⟨0xFFFF⟩, .rectangle mode x0.toInt y0.toInt x1.toInt y1.toInt]
  | .drawCircle color x y radius =>
    (Circle.outline x y radius).map fun dot => .point color 1 1 dot.x dot.y
  | .fillCircle color x y radius =>
    (Circle.filled x y radius).map fun dot => .point color 2 2 dot.x dot.y
  | .drawText showBackground font color background x y words =>
    [.text ⟨true, showBackground, font⟩ color background x.toInt y.toInt
      (String.ofList (words.toList.take 40))]
  | .drawInteger mode color background digits x y value =>
    [.integer mode color background digits x.toInt y.toInt value.toInt]
  | .drawFixedPoint mode color background digits fraction x y value =>
    [.fixedPoint mode color background digits fraction x.toInt y.toInt value.toInt]
  | .drawSigned showBackground font color background digits fraction x y value =>
    [.text ⟨true, showBackground, font⟩ color background (x.toInt - 6) (y.toInt - 3)
      (if value.toInt < 0 then "-" else " "),
     .fixedPoint ⟨showBackground, false, false, false, font⟩ color background digits fraction
      x.toInt y.toInt value.toInt.natAbs]
  | .drawIcon _ library picture x y =>
    [.icon library picture (min x.toInt ((screen.width.toNat : Int) - 1))
      (min y.toInt ((screen.height.toNat : Int) - 1))]
  | .cacheImage id | .drawImage id => [.image id]
  | .moveArea direction offset background x0 y0 x1 y1 =>
    [.moveArea ⟨true, direction⟩ offset background x0.toInt y0.toInt x1.toInt y1.toInt]
  | .setBacklight level => [.backlight (max level 0x1F)]
  | .setOrientation rotation => [.orientation rotation]
  | .refresh => [.refresh]

theorem outline_size {x y : Int32} {radius : UInt16} {dot : Dot} (placed : dot ∈ Circle.outline x y radius) :
    dot.size = 1 := by
  obtain ⟨offset, _, rfl⟩ := List.mem_map.mp placed
  rfl

theorem filled_size {x y : Int32} {radius : UInt16} {dot : Dot} (placed : dot ∈ Circle.filled x y radius) :
    dot.size = 2 := by
  obtain ⟨ring, _, inside⟩ := List.mem_flatMap.mp placed
  obtain ⟨offset, _, rfl⟩ := List.mem_map.mp inside
  rfl

theorem clampCoordinate_fits {value : Int} (high : value ≤ 0x7FFFFFFF)
    (fits : (Instruction.coordinate (clampCoordinate value)).Fits) : clampCoordinate value = value := by
  obtain ⟨low, _⟩ := fits
  unfold clampCoordinate at low ⊢
  omega

theorem magnitude_ok {value : Int64} {size : Int} (sized : magnitude value = .ok size) :
    size = value.toInt.natAbs := by
  simp only [magnitude] at sized
  split at sized
  · cases sized
    rfl
  · cases sized

theorem plan_normal {screen : Screen} {command : Command} {contents : List Bytes}
    (made : command.frames screen = .ok contents) :
    command.plan screen = (command.normalForm screen).map .ok := by
  cases command with
  | drawCircle color x y radius =>
    simp only [plan, dots, normalForm, List.map_map]
    refine List.map_congr_left fun dot placed => ?_
    simp [outline_size placed]
  | fillCircle color x y radius =>
    simp only [plan, dots, normalForm, List.map_map]
    refine List.map_congr_left fun dot placed => ?_
    simp [filled_size placed]
  | drawSigned showBackground font color background digits fraction x y value =>
    have related := mapM_ok_iff.mp made
    simp only [plan] at related
    cases related with
    | cons sign rest =>
      cases rest with
      | cons number _ =>
        have fit := (Instruction.encode_ok_iff.mp sign).1
        have right := x.toInt_lt
        have bottom := y.toInt_lt
        have across : clampCoordinate (x.toInt - signLeft) = x.toInt - 6 :=
          clampCoordinate_fits (by unfold signLeft; omega) (fit _ (by simp [Instruction.fields]))
        have down : clampCoordinate (y.toInt - signAbove) = y.toInt - 3 :=
          clampCoordinate_fits (by unfold signAbove; omega) (fit _ (by simp [Instruction.fields]))
        have glyph : (if value < 0 then "-" else " ") = if value.toInt < 0 then "-" else " " := by
          simp [Int64.lt_iff_toInt_lt]
        cases sized : magnitude value with
        | error fault =>
          rw [sized] at number
          cases number
        | ok size =>
          rw [plan, across, down, glyph, sized, magnitude_ok sized]
          rfl
  | _ => rfl

theorem frames_normal {screen : Screen} {command : Command} {contents : List Bytes}
    (made : command.frames screen = .ok contents) :
    List.Forall₂ (fun instruction content => instruction.encode = .ok content)
      (command.normalForm screen) contents := by
  have related := mapM_ok_iff.mp made
  rw [plan_normal made, List.forall₂_map_left_iff] at related
  exact related

theorem frames_exact {screen : Screen} {command : Command} {contents : List Bytes}
    (made : command.frames screen = .ok contents) :
    (command.normalForm screen).mapM Instruction.encode = .ok contents :=
  mapM_ok_iff.mpr (frames_normal made)

end Command

namespace LinkSettings

def framed (settings : LinkSettings) (content : Bytes) : List Bytes := [settings.headed content, frameTail]

theorem framed_injective (settings : LinkSettings) {contents others : List Bytes}
    (same : contents.flatMap settings.framed = others.flatMap settings.framed) : contents = others := by
  induction contents generalizing others with
  | nil =>
    cases others with
    | nil => rfl
    | cons other more => simp [framed] at same
  | cons content later ih =>
    cases others with
    | nil => simp [framed] at same
    | cons other more =>
      simp only [framed, headed, List.flatMap_cons, List.cons_append, List.nil_append, List.cons.injEq,
        List.append_cancel_left_eq, true_and] at same
      rw [same.1, ih same.2]

end LinkSettings

namespace Display

def Sends (display : Display Panel) (command : Command) (contents : List Bytes) : Prop :=
  (display.draw command).1 = .ok () ∧
    (display.draw command).2.link.line.writes =
      display.link.line.writes ++ contents.flatMap display.link.settings.framed

theorem draw_sends {display : Display Panel} {command : Command} (drawn : (display.draw command).1 = .ok ()) :
    ∃ contents, command.frames display.settings.screen = .ok contents ∧ display.Sends command contents := by
  cases made : command.frames display.settings.screen with
  | error fault =>
    rw [draw_unmade made] at drawn
    cases drawn
  | ok contents =>
    refine ⟨contents, rfl, drawn, ?_⟩
    rw [draw_frames made] at drawn ⊢
    exact Link.transmitAll_recorded drawn

theorem sends_frames {display : Display Panel} {command : Command} {contents : List Bytes}
    (sends : display.Sends command contents) : command.frames display.settings.screen = .ok contents := by
  obtain ⟨own, made, _, recorded⟩ := draw_sends sends.1
  have same := recorded.symm.trans sends.2
  rw [List.append_cancel_left_eq] at same
  rw [made, display.link.settings.framed_injective same]

-- Reading is the left inverse of drawing, up to what the normal form forgets; and
-- the wire forgets nothing more, so what two commands send is the same only where
-- they mean the same.
theorem draw_decodable :
    (∀ (display : Display Panel) (command : Command), (display.draw command).1 = .ok () →
      ∃ contents, display.Sends command contents ∧
        contents.map Instruction.decode = (command.normalForm display.settings.screen).map some) ∧
    (∀ (first second : Display Panel) (command other : Command) (contents others : List Bytes),
      first.Sends command contents → second.Sends other others →
        (contents = others ↔
          command.normalForm first.settings.screen = other.normalForm second.settings.screen)) := by
  constructor
  · intro display command drawn
    obtain ⟨contents, made, sends⟩ := draw_sends drawn
    exact ⟨contents, sends, instructions_read (Command.frames_normal made)⟩
  · intro first second command other contents others sends otherSends
    have made := sends_frames sends
    have otherMade := sends_frames otherSends
    constructor
    · rintro rfl
      have read := instructions_read (Command.frames_normal made)
      have otherRead := instructions_read (Command.frames_normal otherMade)
      exact List.map_injective_iff.mpr (fun _ _ => Option.some.inj) (read.symm.trans otherRead)
    · intro same
      have exact := Command.frames_exact made
      rw [same, Command.frames_exact otherMade] at exact
      cases exact
      rfl

theorem number_and_image_decodable :
    let display : Display Panel := ⟨.ofLine {} {}, {}⟩
    let number : Command :=
      .drawInteger ⟨true, true, false, false, .menu⟩ Color.white Color.black 3 10 20 (-5)
    (display.draw number).1 = .ok () ∧
      (∃ contents, display.Sends number contents ∧ contents.map Instruction.decode =
        [some (.integer ⟨true, true, false, false, .menu⟩ Color.white Color.black 3 10 20 (-5))]) ∧
      display.Sends (.drawImage 7) [[0x22, 0x00, 0x07]] ∧ display.Sends (.cacheImage 7) [[0x22, 0x00, 0x07]] ∧
      Command.normalForm display.settings.screen (.drawImage 7) =
        Command.normalForm display.settings.screen (.cacheImage 7) := by
  have drawn : ((⟨.ofLine {} {}, {}⟩ : Display Panel).draw
      (.drawInteger ⟨true, true, false, false, .menu⟩ Color.white Color.black 3 10 20 (-5))).1 = .ok () := by
    rfl
  intro display number
  have drawImage : display.Sends (.drawImage 7) [[0x22, 0x00, 0x07]] := ⟨rfl, rfl⟩
  have cacheImage : display.Sends (.cacheImage 7) [[0x22, 0x00, 0x07]] := ⟨rfl, rfl⟩
  exact ⟨drawn, draw_decodable.1 display number drawn, drawImage, cacheImage,
    (draw_decodable.2 _ _ _ _ _ _ drawImage cacheImage).mp rfl⟩

end Display

end SerialPanel
