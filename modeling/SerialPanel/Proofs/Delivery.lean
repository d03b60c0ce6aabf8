import Mathlib.Algebra.GroupWithZero.Nat
import SerialPanel.Proofs.Recording
namespace SerialPanel

namespace Panel

-- What no tail has closed yet at the end of a sequence of writes.
def pending (content : Bytes) : List Bytes → Bytes
  | [] => content
  | write :: later => if write = frameTail then pending [] later else pending (content ++ write) later

theorem pending_append (content : Bytes) (first second : List Bytes) :
    pending content (first ++ second) = pending (pending content first) second := by
  induction first generalizing content with
  | nil => rfl
  | cons write later ih =>
    rw [List.cons_append, pending, pending]
    by_cases closing : write = frameTail
    · rw [if_pos closing, if_pos closing, ih]
    · rw [if_neg closing, if_neg closing, ih]

theorem framesFrom_append (content : Bytes) (first second : List Bytes) :
    framesFrom content (first ++ second) =
      framesFrom content first ++ framesFrom (pending content first) second := by
  induction first generalizing content with
  | nil => rfl
  | cons write later ih =>
    rw [List.cons_append, framesFrom, framesFrom, pending]
    by_cases closing : write = frameTail
    · rw [if_pos closing, if_pos closing, if_pos closing, ih, List.cons_append]
    · rw [if_neg closing, if_neg closing, if_neg closing, ih]

end Panel

structure Delivery where
  content : Bytes
  fate : Fate
  deriving DecidableEq, Repr

namespace Delivery

def writes (delivery : Delivery) : List Bytes := delivery.fate.writes delivery.content

def heard (delivery : Delivery) : Bytes :=
  if delivery.fate = .unheard then [] else delivery.content

def run (refuses : Nat → Bool) (number : Nat) : List Bytes → List Delivery
  | [] => []
  | content :: later =>
    let fate := Fate.ofWrites refuses number
    ⟨content, fate⟩ :: run refuses (number + fate.tries) later

theorem run_contents (refuses : Nat → Bool) (number : Nat) (contents : List Bytes) :
    (run refuses number contents).map content = contents := by
  induction contents generalizing number with
  | nil => rfl
  | cons first later ih => rw [run, List.map_cons, ih]

theorem framesFrom_writes {delivery : Delivery} (distinct : delivery.content ≠ frameTail) (carried : Bytes) :
    Panel.framesFrom carried delivery.writes =
      if delivery.fate = .whole then [carried ++ delivery.content] else [] := by
  obtain ⟨content, fate⟩ := delivery
  cases fate <;> simp [writes, Fate.writes, Panel.framesFrom, distinct]

theorem pending_writes {delivery : Delivery} (distinct : delivery.content ≠ frameTail) (carried : Bytes) :
    Panel.pending carried delivery.writes =
      if delivery.fate = .whole then [] else carried ++ delivery.heard := by
  obtain ⟨content, fate⟩ := delivery
  cases fate <;> simp [writes, heard, Fate.writes, Panel.pending, distinct]

variable {deliveries : List Delivery}

def wholes (deliveries : List Delivery) : Nat := deliveries.countP (·.fate = .whole)

theorem wholes_cons (delivery : Delivery) (later : List Delivery) :
    wholes (delivery :: later) = delivery.fate.sent + wholes later := by
  obtain ⟨content, fate⟩ := delivery
  cases fate <;> simp [wholes, Fate.sent, Nat.add_comm]

theorem frames_count (distinct : ∀ delivery ∈ deliveries, delivery.content ≠ frameTail) (carried : Bytes) :
    (Panel.framesFrom carried (deliveries.flatMap writes)).length = wholes deliveries := by
  induction deliveries generalizing carried with
  | nil => rfl
  | cons first later ih =>
    obtain ⟨here, there⟩ := List.forall_mem_cons.mp distinct
    rw [List.flatMap_cons, Panel.framesFrom_append, List.length_append, ih there, framesFrom_writes here,
      wholes_cons]
    obtain ⟨content, fate⟩ := first
    cases fate <;> rfl

theorem frames_unfinished (distinct : ∀ delivery ∈ deliveries, delivery.content ≠ frameTail)
    (unfinished : ∀ delivery ∈ deliveries, delivery.fate ≠ .whole) (carried : Bytes) :
    Panel.framesFrom carried (deliveries.flatMap writes) = [] ∧
      Panel.pending carried (deliveries.flatMap writes) = carried ++ deliveries.flatMap heard := by
  induction deliveries generalizing carried with
  | nil => exact ⟨rfl, (List.append_nil carried).symm⟩
  | cons first later ih =>
    obtain ⟨here, there⟩ := List.forall_mem_cons.mp distinct
    obtain ⟨fails, fail⟩ := List.forall_mem_cons.mp unfinished
    rw [List.flatMap_cons, Panel.framesFrom_append, Panel.pending_append, framesFrom_writes here,
      pending_writes here, if_neg fails, if_neg fails]
    obtain ⟨nothing, collected⟩ := ih there fail (carried ++ first.heard)
    refine ⟨nothing, ?_⟩
    rw [collected, List.flatMap_cons, List.append_assoc]

theorem pending_settled (distinct : ∀ delivery ∈ deliveries, delivery.content ≠ frameTail)
    (settled : ∀ delivery ∈ deliveries.getLast?, delivery.fate = .whole) :
    Panel.pending [] (deliveries.flatMap writes) = [] := by
  rcases List.eq_nil_or_concat deliveries with rfl | ⟨earlier, last, rfl⟩
  · rfl
  · have whole : last.fate = .whole := settled last (by simp)
    rw [List.concat_eq_append, List.flatMap_append, Panel.pending_append, List.flatMap_singleton,
      pending_writes (distinct last (by simp)), if_pos whole]

-- The frame closed by a send is made of its own content and of every content heard
-- since the frame before.
theorem frames_entry {before between after : List Delivery} {last : Delivery}
    (distinct : ∀ delivery ∈ before ++ between ++ last :: after, delivery.content ≠ frameTail)
    (settled : ∀ delivery ∈ before.getLast?, delivery.fate = .whole)
    (unfinished : ∀ delivery ∈ between, delivery.fate ≠ .whole) (whole : last.fate = .whole) :
    (Panel.framesFrom [] ((before ++ between ++ last :: after).flatMap writes))[wholes before]? =
      some (between.flatMap heard ++ last.content) := by
  obtain ⟨distinct, own⟩ := List.forall_mem_append.mp distinct
  obtain ⟨earlier, collected⟩ := List.forall_mem_append.mp distinct
  obtain ⟨here, later⟩ := List.forall_mem_cons.mp own
  obtain ⟨nothing, carried⟩ := frames_unfinished collected unfinished []
  rw [List.flatMap_append, List.flatMap_append, List.flatMap_cons, Panel.framesFrom_append,
    Panel.framesFrom_append, Panel.framesFrom_append, Panel.pending_append, pending_settled earlier settled,
    nothing, carried, framesFrom_writes here, if_pos whole, List.append_nil, List.nil_append,
    List.getElem?_append_right (Nat.le_of_eq (frames_count earlier [])), frames_count earlier [], Nat.sub_self]
  rfl

theorem frames_unglued (distinct : ∀ delivery ∈ deliveries, delivery.content ≠ frameTail)
    (closed : ∀ delivery ∈ deliveries, delivery.fate ≠ .unclosed) :
    Panel.framesFrom [] (deliveries.flatMap writes) =
      (deliveries.filter (·.fate = .whole)).map content := by
  induction deliveries with
  | nil => rfl
  | cons first later ih =>
    obtain ⟨here, there⟩ := List.forall_mem_cons.mp distinct
    obtain ⟨tailed, tails⟩ := List.forall_mem_cons.mp closed
    rw [List.flatMap_cons, Panel.framesFrom_append, framesFrom_writes here, pending_writes here]
    obtain ⟨content, fate⟩ := first
    cases fate with
    | unheard => exact ih there tails
    | unclosed => exact absurd rfl tailed
    | whole => exact congrArg (content :: ·) (ih there tails)

end Delivery

namespace Link

section

variable {σ : Type} [Line σ]

def sends (link : Link σ) : List Frame → List (Except Fault Unit × Frame) × Link σ
  | [] => ([], link)
  | frame :: later =>
    let (result, left, link) := link.send frame
    let (others, link) := link.sends later
    ((result, left) :: others, link)

theorem sends_cons (link : Link σ) (frame : Frame) (later : List Frame) :
    link.sends (frame :: later) =
      (((link.transmit frame.content).1, .empty) :: ((link.transmit frame.content).2.sends later).1,
        ((link.transmit frame.content).2.sends later).2) := rfl

end

def deliveries (link : Link Panel) (frames : List Frame) : List Delivery :=
  Delivery.run link.line.refuses link.line.tried (frames.map fun frame => link.settings.headed frame.content)

theorem deliveries_content {link : Link Panel} {frames : List Frame} {delivery : Delivery}
    (sent : delivery ∈ link.deliveries frames) :
    ∃ frame ∈ frames, link.settings.headed frame.content = delivery.content := by
  have own : delivery.content ∈ (link.deliveries frames).map Delivery.content := List.mem_map_of_mem sent
  unfold deliveries at own
  rw [Delivery.run_contents] at own
  exact List.mem_map.mp own

theorem deliveries_cons {link next : Link Panel} {frame : Frame}
    (fated : Fated link.fate frame.content link next) (later : List Frame) :
    link.deliveries (frame :: later) =
      ⟨link.settings.headed frame.content, link.fate⟩ :: next.deliveries later := by
  unfold deliveries
  rw [fated.settings, fated.refuses, fated.tried]
  rfl

theorem sends_recorded (link : Link Panel) (frames : List Frame) :
    (link.sends frames).1 = (link.deliveries frames).map (fun delivery => (delivery.fate.result, .empty)) ∧
      (link.sends frames).2.line.tried =
        link.line.tried + ((link.deliveries frames).map (·.fate.tries)).sum ∧
      (link.sends frames).2.line.writes =
        link.line.writes ++ (link.deliveries frames).flatMap Delivery.writes ∧
      (link.sends frames).2.framesSent = link.framesSent + Delivery.wholes (link.deliveries frames) := by
  induction frames generalizing link with
  | nil => simp [sends, deliveries, Delivery.run, Delivery.wholes]
  | cons frame later ih =>
    obtain ⟨result, fated⟩ := link.transmit_fated frame.content
    obtain ⟨results, tried, writes, framesSent⟩ := ih (link.transmit frame.content).2
    rw [sends_cons, deliveries_cons fated, Delivery.wholes_cons]
    refine ⟨?_, ?_, ?_, ?_⟩
    · rw [List.map_cons, result, results]
    · rw [tried, fated.tried, List.map_cons, List.sum_cons, Nat.add_assoc]
    · rw [writes, fated.writes, List.flatMap_cons, List.append_assoc]
      rfl
    · rw [framesSent, fated.framesSent, Nat.add_assoc]

-- The panel's log, the frames cut out of it and the link's own count after any
-- number of sends, whichever writes are refused. The number of sends is arbitrary,
-- so this holds at every moment of a longer run.
theorem sends_delivered (panel : Panel) (settings : LinkSettings) (frames : List Frame) (blank : panel.log = [])
    (distinct : ∀ frame ∈ frames, settings.headed frame.content ≠ frameTail) :
    let deliveries := (ofLine panel settings).deliveries frames
    let results := ((ofLine panel settings).sends frames).1
    let link := ((ofLine panel settings).sends frames).2
    results = deliveries.map (fun delivery => (delivery.fate.result, .empty)) ∧
      link.line.tried = panel.tried + (deliveries.map (·.fate.tries)).sum ∧
      link.line.writes = deliveries.flatMap Delivery.writes ∧
      link.framesSent = results.countP (·.1.isOk) ∧
      link.line.frames.length = link.framesSent ∧
      (∀ before between last after, deliveries = before ++ between ++ last :: after →
        (∀ delivery ∈ before.getLast?, delivery.fate = .whole) →
        (∀ delivery ∈ between, delivery.fate ≠ .whole) → last.fate = .whole →
        link.line.frames[before.countP (·.fate = .whole)]? =
          some (between.flatMap Delivery.heard ++ last.content)) ∧
      ((∀ delivery ∈ deliveries, delivery.fate ≠ .unclosed) →
        link.line.frames = (deliveries.filter (·.fate = .whole)).map (·.content)) := by
  intro deliveries results link
  obtain ⟨returned, tried, written, counted⟩ := (ofLine panel settings).sends_recorded frames
  have logged : link.line.writes = deliveries.flatMap Delivery.writes := by
    rw [written, show (ofLine panel settings).line.writes = [] from congrArg List.reverse blank]
    rfl
  have spelled : ∀ delivery ∈ deliveries, delivery.content ≠ frameTail := by
    intro delivery sent
    obtain ⟨frame, handed, same⟩ := deliveries_content sent
    rw [← same]
    exact distinct frame handed
  have sentWhole : link.framesSent = Delivery.wholes deliveries := by
    rw [counted]
    exact Nat.zero_add _
  have cut : link.line.frames = Panel.framesFrom [] (deliveries.flatMap Delivery.writes) :=
    congrArg (Panel.framesFrom []) logged
  refine ⟨returned, tried, logged, ?_, ?_, ?_, ?_⟩
  · rw [sentWhole]
    change Delivery.wholes deliveries = ((ofLine panel settings).sends frames).1.countP (·.1.isOk)
    rw [returned, List.countP_map]
    exact congrArg (deliveries.countP ·) (funext fun delivery => delivery.fate.result_isOk.symm)
  · rw [cut, Delivery.frames_count spelled, sentWhole]
  · intro before between last after split settled unfinished whole
    rw [cut, split]
    exact Delivery.frames_entry (split ▸ spelled) settled unfinished whole
  · intro closed
    rw [cut, Delivery.frames_unglued spelled closed]

theorem sends_glued :
    let frames : List Frame := [⟨[0x01]⟩, ⟨[0x02]⟩, ⟨[0x03]⟩, ⟨[0x04]⟩]
    let panel : Panel := { refuses := fun number => number == 1 || number == 4 }
    let run := (ofLine panel { head := some 0xAA }).sends frames
    (∀ frame ∈ frames, 0xAA :: frame.content ≠ frameTail) ∧
      run.1.map (·.1.isOk) = [false, true, false, true] ∧ run.2.framesSent = 2 ∧
      run.2.line.frames[0]? = some [0xAA, 0x01, 0xAA, 0x02] ∧ run.2.line.frames[1]? = some [0xAA, 0x04] := by
  intro frames panel run
  have distinct : ∀ frame ∈ frames, 0xAA :: frame.content ≠ frameTail := by decide
  have history : (ofLine panel { head := some 0xAA }).deliveries frames =
      [⟨[0xAA, 0x01], .unclosed⟩, ⟨[0xAA, 0x02], .whole⟩, ⟨[0xAA, 0x03], .unheard⟩, ⟨[0xAA, 0x04], .whole⟩] := rfl
  have delivered := sends_delivered panel { head := some 0xAA } frames rfl distinct
  rw [history, show (ofLine panel { head := some 0xAA }).sends frames = run from rfl] at delivered
  clear_value run
  obtain ⟨returned, _, _, counted, _, entry, _⟩ := delivered
  rw [returned] at counted ⊢
  refine ⟨distinct, rfl, counted, ?_, ?_⟩
  · exact entry [] [⟨[0xAA, 0x01], .unclosed⟩] ⟨[0xAA, 0x02], .whole⟩
      [⟨[0xAA, 0x03], .unheard⟩, ⟨[0xAA, 0x04], .whole⟩] rfl (by simp) (by simp) rfl
  · exact entry [⟨[0xAA, 0x01], .unclosed⟩, ⟨[0xAA, 0x02], .whole⟩] [⟨[0xAA, 0x03], .unheard⟩]
      ⟨[0xAA, 0x04], .whole⟩ [] rfl (by simp) (by simp) rfl

end Link

end SerialPanel
