import SerialPanel.Proofs.Delivery
namespace SerialPanel

-- The tail has no border: of two tails in one stream neither begins inside of the
-- other. What stands between their beginnings is empty or has room for the first.
theorem tail_ahead {front rest : Bytes} (begins : frameTail <+: front ++ (frameTail ++ rest)) :
    front = [] ∨ frameTail <+: front := by
  by_cases long : 4 ≤ front.length
  · exact .inr (List.prefix_of_prefix_length_le begins (List.prefix_append front _) long)
  · rcases front with _ | ⟨_, _ | ⟨_, _ | ⟨_, _ | ⟨_, _⟩⟩⟩⟩
    · exact .inl rfl
    · simp [frameTail] at begins
    · simp [frameTail] at begins
    · simp [frameTail] at begins
    · exact absurd (Nat.le_add_left 4 _) long

theorem unframe_tail (content rest : Bytes) :
    unframe content (frameTail ++ rest) = (content :: (unframe [] rest).1, (unframe [] rest).2) := by
  rfl

theorem unframe_byte {byte : UInt8} {rest : Bytes} (content : Bytes) (other : ¬frameTail <+: byte :: rest) :
    unframe content (byte :: rest) = unframe (content ++ [byte]) rest := by
  rw [unframe]
  intro later first more
  subst first more
  exact other (List.prefix_append frameTail later)

theorem unframe_content {content : Bytes} (tailless : ¬frameTail <:+: content) (carried rest : Bytes) :
    unframe carried (content ++ (frameTail ++ rest)) =
      ((carried ++ content) :: (unframe [] rest).1, (unframe [] rest).2) := by
  induction content generalizing carried with
  | nil => rw [List.nil_append, List.append_nil, unframe_tail]
  | cons byte more ih =>
    have later : ¬frameTail <:+: more := by
      intro inside
      exact tailless (List.infix_cons inside)
    have other : ¬frameTail <+: byte :: (more ++ (frameTail ++ rest)) := by
      intro begins
      have inside : byte :: more = [] ∨ frameTail <+: byte :: more := tail_ahead begins
      exact tailless (inside.resolve_left (List.cons_ne_nil byte more)).isInfix
    rw [List.cons_append, unframe_byte _ other, ih later, List.append_assoc]
    rfl

theorem unframe_rest {rest : Bytes} (tailless : ¬frameTail <:+: rest) (carried : Bytes) :
    unframe carried rest = ([], carried ++ rest) := by
  induction rest generalizing carried with
  | nil => rw [List.append_nil]; rfl
  | cons byte more ih =>
    have later : ¬frameTail <:+: more := by
      intro inside
      exact tailless (List.infix_cons inside)
    have other : ¬frameTail <+: byte :: more := by
      intro begins
      exact tailless begins.isInfix
    rw [unframe_byte _ other, ih later, List.append_assoc]
    rfl

theorem unframe_joined (content bytes : Bytes) :
    (unframe content bytes).1.flatMap (· ++ frameTail) ++ (unframe content bytes).2 = content ++ bytes := by
  fun_induction unframe content bytes with
  | case1 content => exact (List.append_nil content).symm
  | case2 content rest closed left cut ih =>
    rw [cut, List.nil_append] at ih
    rw [List.flatMap_cons, List.append_assoc, ih, List.append_assoc]
    rfl
  | case3 content byte rest other ih => rw [ih, List.append_assoc]; rfl

def Passed (content bytes : Bytes) : Prop :=
  ∀ front back, content = front ++ back → frameTail <+: back ++ bytes → back = []

theorem Passed.start (bytes : Bytes) : Passed [] bytes := by
  intro front back same _
  exact (List.append_eq_nil_iff.mp same.symm).2

theorem Passed.tailless {content bytes : Bytes} (passed : Passed content bytes) : ¬frameTail <:+: content := by
  intro inside
  obtain ⟨front, back, same⟩ := inside
  have begins : frameTail <+: (frameTail ++ back) ++ bytes := by
    rw [List.append_assoc]
    exact List.prefix_append ..
  have empty := passed front (frameTail ++ back) (by rw [← same, List.append_assoc]) begins
  cases empty

theorem Passed.byte {content rest : Bytes} {byte : UInt8} (passed : Passed content (byte :: rest))
    (other : ¬frameTail <+: byte :: rest) : Passed (content ++ [byte]) rest := by
  intro front back same begins
  rcases List.eq_nil_or_concat back with rfl | ⟨back, last, rfl⟩
  · rfl
  · rw [List.concat_eq_append, ← List.append_assoc] at same
    obtain ⟨rfl, final⟩ := List.append_inj' same rfl
    cases final
    rw [List.concat_eq_append, List.append_assoc] at begins
    have empty := passed front back rfl begins
    subst empty
    exact absurd begins other

theorem unframe_tailless {content bytes : Bytes} (passed : Passed content bytes) :
    ∀ piece ∈ (unframe content bytes).2 :: (unframe content bytes).1, ¬frameTail <:+: piece := by
  fun_induction unframe content bytes with
  | case1 content =>
    intro piece cut
    cases List.mem_singleton.mp cut
    exact passed.tailless
  | case2 content rest closed left cut ih =>
    rw [cut] at ih
    have later := ih (.start rest)
    intro piece member
    rcases List.mem_cons.mp member with rfl | member
    · exact later _ List.mem_cons_self
    · rcases List.mem_cons.mp member with rfl | member
      · exact passed.tailless
      · exact later _ (List.mem_cons_of_mem _ member)
  | case3 content byte rest other ih =>
    have here : ¬frameTail <+: byte :: rest := by
      rintro ⟨later, same⟩
      cases same
      exact other _ rfl rfl
    exact ih (passed.byte here)

theorem unframe_exact {bytes : Bytes} {closed : List Bytes} {left : Bytes} :
    unframe [] bytes = (closed, left) ↔
      closed.flatMap (· ++ frameTail) ++ left = bytes ∧ ∀ piece ∈ left :: closed, ¬frameTail <:+: piece := by
  constructor
  · intro cut
    have joined := unframe_joined [] bytes
    have tailless := unframe_tailless (Passed.start bytes)
    rw [cut] at joined tailless
    exact ⟨joined, tailless⟩
  · intro ⟨joined, tailless⟩
    subst joined
    obtain ⟨rest, pieces⟩ := List.forall_mem_cons.mp tailless
    clear tailless
    induction closed with
    | nil => exact unframe_rest rest []
    | cons content later ih =>
      obtain ⟨own, others⟩ := List.forall_mem_cons.mp pieces
      rw [List.flatMap_cons, List.append_assoc, List.append_assoc, unframe_content own, ih others]
      rfl

theorem tail_located {contents : List Bytes} {before after : Bytes}
    (found : before ++ (frameTail ++ after) = contents.flatMap (· ++ frameTail)) :
    ∃ earlier content later inner, contents = earlier ++ content :: later ∧
      before = earlier.flatMap (· ++ frameTail) ++ inner ∧
      (inner = content ∨ inner ++ frameTail <+: content) := by
  induction contents generalizing before with
  | nil => simp [frameTail] at found
  | cons content later ih =>
    rw [List.flatMap_cons, List.append_assoc] at found
    rcases List.append_eq_append_iff.mp found with ⟨inner, own, stream⟩ | ⟨beyond, passed, stream⟩
    · -- It begins in the content.
      have begins : frameTail <+: inner ++ (frameTail ++ later.flatMap (· ++ frameTail)) := by
        rw [← stream]
        exact List.prefix_append ..
      refine ⟨[], content, later, before, rfl, rfl, ?_⟩
      rcases tail_ahead begins with empty | inside
      · left
        rw [own, empty, List.append_nil]
      · right
        rw [own]
        exact (List.prefix_append_right_inj before).mpr inside
    · -- It begins behind the content.
      have begins : frameTail <+: beyond ++ (frameTail ++ after) := by
        rw [← stream]
        exact List.prefix_append ..
      rcases tail_ahead begins with empty | ⟨rest, whole⟩
      · refine ⟨[], content, later, before, rfl, rfl, .inl ?_⟩
        rw [passed, empty, List.append_nil]
      · rw [← whole, List.append_assoc] at stream
        obtain ⟨earlier, other, others, inner, split, place, lies⟩ := ih (List.append_cancel_left stream).symm
        refine ⟨content :: earlier, other, others, inner, by rw [split]; rfl, ?_, lies⟩
        rw [passed, ← whole, place, List.flatMap_cons]
        simp only [List.append_assoc]

theorem tail_once {content : Bytes} (tailless : ¬frameTail <:+: content) (before after : Bytes) :
    content ++ frameTail = before ++ (frameTail ++ after) ↔ before = content ∧ after = [] := by
  constructor
  · intro found
    have single : before ++ (frameTail ++ after) = [content].flatMap (· ++ frameTail) := by
      rw [List.flatMap_singleton, found]
    obtain ⟨earlier, own, later, inner, only, place, lies⟩ := tail_located single
    rcases List.append_eq_singleton_iff.mp only.symm with ⟨rfl, same⟩ | ⟨_, empty⟩
    · cases same
      rcases lies with rfl | inside
      · rw [place, List.flatMap_nil, List.nil_append] at found ⊢
        exact ⟨rfl, List.self_eq_append_right.mp (List.append_cancel_left found)⟩
      · exact absurd ((List.suffix_append inner frameTail).isInfix.trans inside.isInfix) tailless
    · cases empty
  · rintro ⟨rfl, rfl⟩
    rw [List.append_nil]

namespace Link

theorem sends_streamed {link : Link Panel} {frames : List Frame}
    (sent : ∀ outcome ∈ (link.sends frames).1, outcome.1 = .ok ()) :
    (link.sends frames).2.line.wire =
      link.line.wire ++ frames.flatMap fun frame => link.settings.headed frame.content ++ frameTail := by
  induction frames generalizing link with
  | nil => exact (List.append_nil _).symm
  | cons frame later ih =>
    rw [sends_cons] at sent ⊢
    obtain ⟨first, others⟩ := List.forall_mem_cons.mp sent
    have written : (link.transmit frame.content).2.line.wire =
        link.line.wire ++ (link.settings.headed frame.content ++ frameTail) := by
      unfold Panel.wire
      rw [transmit_recorded first]
      simp
    rw [ih others, written, (link.transmit_keeps frame.content).settings, List.flatMap_cons, List.append_assoc]

-- What a panel that cuts its stream of bytes at every tail makes of frames that all
-- went out: it gets them back exactly if none has a tail inside. Whatever they hold,
-- no tail is found that begins in one of them and ends in the next, or in a tail.
theorem sends_unframed {link : Link Panel} {frames : List Frame}
    (sent : ∀ outcome ∈ (link.sends frames).1, outcome.1 = .ok ()) :
    let contents := frames.map fun frame => link.settings.headed frame.content
    ∃ stream, (link.sends frames).2.line.wire = link.line.wire ++ stream ∧
      (unframe [] stream = (contents, []) ↔ ∀ content ∈ contents, ¬frameTail <:+: content) ∧
      ∀ before after, before ++ (frameTail ++ after) = stream →
        ∃ earlier content later inner, contents = earlier ++ content :: later ∧
          before = earlier.flatMap (· ++ frameTail) ++ inner ∧
          (inner = content ∨ inner ++ frameTail <+: content) := by
  intro contents
  refine ⟨contents.flatMap (· ++ frameTail), ?_, ?_, fun before after found => tail_located found⟩
  · rw [sends_streamed sent, List.flatMap_map]
  · rw [unframe_exact]
    constructor
    · intro ⟨_, tailless⟩
      exact (List.forall_mem_cons.mp tailless).2
    · intro tailless
      exact ⟨List.append_nil _, List.forall_mem_cons.mpr ⟨by decide, tailless⟩⟩

theorem palette_cut :
    let link : Link Panel := ofLine {} { head := some 0xAA }
    let halves : List Frame := [⟨[0x52, 0xCC, 0x33]⟩, ⟨[]⟩, ⟨[0xC3, 0x3C]⟩]
    let palette : List Frame := [⟨[0x52, 0x00, 0x00]⟩, ⟨[0x40, 0xCC, 0x33, 0xC3, 0x3C]⟩]
    (∀ outcome ∈ (link.sends halves).1, outcome.1 = .ok ()) ∧
      (∀ outcome ∈ (link.sends palette).1, outcome.1 = .ok ()) ∧
      unframe [] (link.sends halves).2.line.wire = ([[0xAA, 0x52, 0xCC, 0x33], [0xAA], [0xAA, 0xC3, 0x3C]], []) ∧
      unframe [] (link.sends palette).2.line.wire ≠ ([[0xAA, 0x52, 0x00, 0x00], [0xAA, 0x40, 0xCC, 0x33, 0xC3, 0x3C]], []) := by
  intro link halves palette
  have first : ∀ outcome ∈ (link.sends halves).1, outcome.1 = .ok () := by decide
  have second : ∀ outcome ∈ (link.sends palette).1, outcome.1 = .ok () := by decide
  obtain ⟨_, rfl, kept, _⟩ := sends_unframed first
  obtain ⟨_, rfl, lost, _⟩ := sends_unframed second
  refine ⟨first, second, kept.mpr (by decide), fun cut => ?_⟩
  exact absurd (lost.mp cut) (by decide)

end Link

end SerialPanel
