import SerialPanel.Proofs.Lifecycle
import SerialPanel.Proofs.Vocabulary
namespace SerialPanel

namespace Panel

def scripted (panel : Panel) (attempt : Nat) : Bytes :=
  panel.replies[attempt - 1]?.getD (if panel.acknowledges then [0xAA, 0x00, 0x4F, 0x4B] else [])

structure AnswersAt (panel : Panel) (attempt : Nat) : Prop where
  counted : 0 < attempt
  answers : [0xAA, 0x00, 0x4F, 0x4B] <+: panel.scripted attempt
  first : ∀ earlier, 0 < earlier → earlier < attempt → ¬[0xAA, 0x00, 0x4F, 0x4B] <+: panel.scripted earlier

theorem answersAt_first {panel : Panel} {attempt : Nat} (counted : 0 < attempt)
    (answers : [0xAA, 0x00, 0x4F, 0x4B] <+: panel.scripted attempt) :
    ∃ first, first ≤ attempt ∧ panel.AnswersAt first := by
  induction attempt using Nat.strongRecOn with
  | ind attempt ih =>
    by_cases sooner : ∃ earlier, 0 < earlier ∧ earlier < attempt ∧ [0xAA, 0x00, 0x4F, 0x4B] <+: panel.scripted earlier
    · obtain ⟨earlier, counted, before, already⟩ := sooner
      obtain ⟨first, within, found⟩ := ih earlier before counted already
      exact ⟨first, Nat.le_trans within (Nat.le_of_lt before), found⟩
    · refine ⟨attempt, Nat.le_refl _, counted, answers, fun earlier counted before already => ?_⟩
      exact sooner ⟨earlier, counted, before, already⟩

theorem AnswersAt.least {panel : Panel} {attempt other : Nat} (found : panel.AnswersAt attempt)
    (answers : panel.AnswersAt other) : attempt ≤ other := by
  by_contra sooner
  exact found.first other answers.counted (Nat.not_le.mp sooner) answers.answers

theorem unanswered_before {panel : Panel} {attempts : Nat}
    (later : ∀ attempt, panel.AnswersAt attempt → attempts < attempt) {attempt : Nat} (counted : 0 < attempt)
    (within : attempt ≤ attempts) : ¬[0xAA, 0x00, 0x4F, 0x4B] <+: panel.scripted attempt := by
  intro answers
  obtain ⟨first, sooner, found⟩ := answersAt_first counted answers
  have beyond := later first found
  omega

theorem greeting_scripted {panel : Panel} {head : Option UInt8} (greeted : Greeted head) :
    panel.greeting head = panel.scripted 1 := by
  unfold greeting scripted
  rw [if_pos greeted]
  cases panel.replies with
  | nil => rfl
  | cons reply later => rfl

end Panel

namespace Link

-- A link that waits for its panel: the panel takes every frame and knows this link's
-- handshake, and nothing is left over from before.
structure Attentive (link : Link Panel) : Prop where
  greeted : Panel.Greeted link.settings.head
  isOpen : link.line.Open
  listening : link.listening = true
  quiet : link.received = []

structure Tried (attempts : Nat) (before after : Link Panel) : Prop where
  writes : after.line.writes =
    before.line.writes ++ (List.replicate attempts [Opcode.handshake]).flatMap before.settings.framed
  replies : after.line.replies = before.line.replies.drop attempts
  acknowledges : after.line.acknowledges = before.line.acknowledges
  framesSent : after.framesSent = before.framesSent + attempts
  settings : after.settings = before.settings
  attentive : after.Attentive

theorem Tried.none {link : Link Panel} (attentive : link.Attentive) : Tried 0 link link :=
  ⟨(List.append_nil _).symm, rfl, rfl, rfl, rfl, attentive⟩

theorem Tried.trans {first second : Nat} {before between after : Link Panel}
    (one : Tried first before between) (two : Tried second between after) :
    Tried (first + second) before after where
  writes := by
    rw [two.writes, one.writes, one.settings, List.replicate_add, List.flatMap_append, List.append_assoc]
  replies := by rw [two.replies, one.replies, List.drop_drop]
  acknowledges := two.acknowledges.trans one.acknowledges
  framesSent := by rw [two.framesSent, one.framesSent, Nat.add_assoc]
  settings := two.settings.trans one.settings
  attentive := two.attentive

theorem Tried.scripted {attempts : Nat} {before after : Link Panel} (tried : Tried attempts before after)
    {attempt : Nat} (counted : 0 < attempt) :
    after.line.scripted attempt = before.line.scripted (attempts + attempt) := by
  unfold Panel.scripted
  rw [tried.replies, tried.acknowledges, List.getElem?_drop, Nat.add_sub_assoc counted]

-- An attempt leaves no bytes behind, so the next one starts as this one did.
theorem handshake_attentive {link : Link Panel} (attentive : link.Attentive) :
    link.handshake.1 = .ok (decide ([0xAA, 0x00, 0x4F, 0x4B] <+: link.line.scripted 1)) ∧
      Tried 1 link link.handshake.2 := by
  have taken : link.begun.line.refuses link.begun.line.tried = false := attentive.isOpen.taken
  have closed : link.begun.line.refuses (link.begun.line.tried + 1) = false :=
    attentive.isOpen _ (Nat.le_succ _)
  have answer : link.line.answer (link.settings.headed [Opcode.handshake]) = link.line.scripted 1 :=
    (link.line.answer_handshake link.settings).trans (Panel.greeting_scripted attentive.greeted)
  have waiting : (link.begun.heard (link.settings.headed [Opcode.handshake])).received = link.line.scripted 1 := by
    rw [heard_listening (show link.begun.listening = true from attentive.listening)]
    change link.received ++ link.line.answer _ = _
    rw [attentive.quiet, answer]
    rfl
  have opens : isAcknowledgement (link.line.scripted 1) =
      decide ([0xAA, 0x00, 0x4F, 0x4B] <+: link.line.scripted 1) := by
    rw [Bool.eq_iff_iff, isAcknowledgement_iff, decide_eq_true_iff]
  have script : (link.line.took (link.settings.headed [Opcode.handshake])).replies = link.line.replies.drop 1 := by
    rw [Panel.took_handshake, List.drop_one]
    exact if_pos attentive.greeted
  have settings : (link.begun.heard (link.settings.headed [Opcode.handshake])).settings = link.settings :=
    heard_settings ..
  have outcome := handshake_heard (transmit_whole taken closed [Opcode.handshake])
  rw [outcome]
  refine ⟨?_, ⟨?_, script, rfl, rfl, settings, ⟨?_, ?_, ?_, rfl⟩⟩⟩
  · rw [← opens, ← waiting]
    rfl
  · change ((link.line.took (link.settings.headed [Opcode.handshake])).took frameTail).writes = _
    simp [LinkSettings.framed]
  · change Panel.Greeted (link.begun.heard (link.settings.headed [Opcode.handshake])).settings.head
    rw [settings]
    exact attentive.greeted
  · exact (attentive.isOpen.took _).took frameTail
  · exact (arrive_listening ..).trans attentive.listening

theorem handshakeWithin_unanswered {link : Link Panel} (attentive : link.Attentive) {attempts : Nat}
    (unanswered : ∀ attempt, 0 < attempt → attempt ≤ attempts →
      ¬[0xAA, 0x00, 0x4F, 0x4B] <+: link.line.scripted attempt) :
    (link.handshakeWithin attempts).1 = .ok false ∧ Tried attempts link (link.handshakeWithin attempts).2 := by
  induction attempts generalizing link with
  | zero => exact ⟨rfl, .none attentive⟩
  | succ more ih =>
    obtain ⟨result, tried⟩ := handshake_attentive attentive
    have silent : link.handshake.1 = .ok false := by
      rw [result, decide_eq_false (unanswered 1 Nat.one_pos (Nat.le_add_left 1 more))]
    have others : ∀ attempt, 0 < attempt → attempt ≤ more →
        ¬[0xAA, 0x00, 0x4F, 0x4B] <+: link.handshake.2.line.scripted attempt := by
      intro attempt counted within
      rw [tried.scripted counted]
      exact unanswered _ (Nat.lt_add_right attempt Nat.one_pos) (by omega)
    obtain ⟨last, rest⟩ := ih tried.attentive others
    rw [handshakeWithin_succ, if_pos silent]
    refine ⟨last, ?_⟩
    rw [Nat.add_comm more 1]
    exact tried.trans rest

theorem handshakeWithin_add {σ : Type} [Line σ] (link : Link σ) (first second : Nat) :
    link.handshakeWithin (first + second) =
      if (link.handshakeWithin first).1 = .ok false then (link.handshakeWithin first).2.handshakeWithin second
      else link.handshakeWithin first := by
  induction first generalizing link with
  | zero => rw [Nat.zero_add]; rfl
  | succ first ih =>
    rw [Nat.add_right_comm, handshakeWithin_succ, handshakeWithin_succ]
    by_cases silent : link.handshake.1 = .ok false
    · rw [if_pos silent, if_pos silent, ih]
    · rw [if_neg silent, if_neg silent, if_neg silent]

theorem handshakeWithin_answered {link : Link Panel} (attentive : link.Attentive) {attempt : Nat}
    (found : link.line.AnswersAt attempt) :
    ∃ after, Tried attempt link after ∧ after.state = .ready ∧
      ∀ attempts, attempt ≤ attempts → link.handshakeWithin attempts = (.ok true, after) := by
  obtain ⟨vain, rfl⟩ := Nat.exists_eq_add_one.mpr found.counted
  have unanswered : ∀ earlier, 0 < earlier → earlier ≤ vain →
      ¬[0xAA, 0x00, 0x4F, 0x4B] <+: link.line.scripted earlier :=
    fun earlier counted within => found.first earlier counted (Nat.lt_succ_of_le within)
  obtain ⟨silent, tried⟩ := handshakeWithin_unanswered attentive unanswered
  obtain ⟨result, last⟩ := handshake_attentive tried.attentive
  have answered : (link.handshakeWithin vain).2.handshake.1 = .ok true := by
    rw [result, tried.scripted Nat.one_pos, decide_eq_true found.answers]
  refine ⟨(link.handshakeWithin vain).2.handshake.2, tried.trans last, ?_, fun attempts within => ?_⟩
  · rw [handshake_state, answered]
    rfl
  · obtain ⟨spare, rfl⟩ := Nat.exists_eq_add_of_le within
    have decided : (link.handshakeWithin vain).2.handshake.1 ≠ .ok false := by
      rw [answered]
      simp
    rw [Nat.add_assoc, handshakeWithin_add, if_pos silent, Nat.add_comm 1 spare, handshakeWithin_succ,
      if_neg decided]
    exact Prod.ext answered rfl

theorem transmit_mute {link : Link Panel} (isOpen : link.line.Open) {content : Bytes}
    (mute : Panel.isHandshake (link.settings.headed content) = false) :
    link.transmit content =
      (.ok (), { link with
        line := (link.line.took (link.settings.headed content)).took frameTail
        framesSent := link.framesSent + 1 }) := by
  rw [transmit_whole isOpen.taken (isOpen _ (Nat.le_succ _)), heard_mute mute]

theorem transmitAll_mute {link : Link Panel} (isOpen : link.line.Open) {contents : List Bytes}
    (mute : ∀ content ∈ contents, Panel.isHandshake (link.settings.headed content) = false) :
    (link.transmitAll contents).2.line.replies = link.line.replies ∧
      (link.transmitAll contents).2.framesSent = link.framesSent + contents.length ∧
      (link.transmitAll contents).2.received = link.received := by
  induction contents generalizing link with
  | nil => exact ⟨rfl, rfl, rfl⟩
  | cons content later ih =>
    obtain ⟨own, others⟩ := List.forall_mem_cons.mp mute
    have kept : ((link.line.took (link.settings.headed content)).took frameTail).replies = link.line.replies :=
      if_neg (Bool.eq_false_iff.mp own)
    obtain ⟨replies, framesSent, received⟩ := @ih
      { link with
        line := (link.line.took (link.settings.headed content)).took frameTail
        framesSent := link.framesSent + 1 } ((isOpen.took _).took _) others
    rw [transmitAll_cons, transmit_mute isOpen own]
    refine ⟨replies.trans kept, framesSent.trans ?_, received⟩
    exact (Nat.add_right_comm ..).trans (Nat.add_assoc ..)

end Link

namespace Display

section

variable {σ : Type} [Line σ]

theorem drawAll_frames {display : Display σ} {screen : Screen} (same : display.settings.screen = screen)
    {commands : List Command} {contents : List Bytes}
    (made : List.Forall₂ (fun command content => command.frames screen = .ok [content]) commands contents) :
    display.drawAll commands = display.transmit contents := by
  induction made generalizing display with
  | nil => rfl
  | @cons command content commands contents own others ih =>
    have drawn : display.draw command = display.transmit [content] := draw_frames (same ▸ own)
    rw [drawAll, drawn]
    unfold transmit
    rw [Link.transmitAll_cons, Link.transmitAll_cons]
    cases (display.link.transmit content).1 with
    | error fault => rfl
    | ok _ => exact ih same

theorem startWithin_silent {display : Display σ} {attempts : Nat} {after : Link σ}
    (silent : display.link.handshakeWithin attempts = (.ok false, after)) :
    display.startWithin attempts = (none, { display with link := after }) := by
  unfold startWithin
  rw [silent]

theorem startWithin_answered {display : Display σ} {attempts : Nat} {after : Link σ}
    (answered : display.link.handshakeWithin attempts = (.ok true, after)) :
    display.startWithin attempts =
      (some (drawAll { display with link := after } (welcome display.settings)).1,
        (drawAll { display with link := after } (welcome display.settings)).2) := by
  unfold startWithin
  rw [answered]

def splash (settings : Settings) : List Bytes :=
  [[0x22, 0x00, settings.startupImage], [0x34, 0x5A, 0xA5, settings.rotation.code], [0x3D]]

theorem splash_frames (settings : Settings) :
    List.Forall₂ (fun command content => Command.frames settings.screen command = .ok [content])
      (welcome settings) (splash settings) := by
  have single : ∀ (instruction : Instruction) (content : Bytes), instruction.encode = .ok content →
      ([Except.ok instruction].mapM fun entry => entry >>= Instruction.encode) = .ok [content] := by
    intro instruction content made
    exact mapM_ok_iff.mpr (.cons made .nil)
  refine .cons (single _ _ ?_) (.cons (single _ _ ?_) (.cons (single _ _ ?_) .nil))
  · refine Instruction.encode_ok_iff.mpr ⟨by simp [Instruction.fields], ?_⟩
    simp only [Instruction.fields, List.flatMap_cons, List.flatMap_nil, Instruction.byteField_bytes]
    rfl
  · refine Instruction.encode_ok_iff.mpr ⟨by simp [Instruction.fields, Opcode.orientationKey], ?_⟩
    simp only [Instruction.fields, Opcode.orientationKey, List.map_cons, List.map_nil, List.cons_append,
      List.nil_append, List.flatMap_cons, List.flatMap_nil, Instruction.byteField_bytes]
    rfl
  · rfl

end

theorem splash_mute (settings : Settings) (linkSettings : LinkSettings) :
    ∀ content ∈ splash settings, Panel.isHandshake (linkSettings.headed content) = false := by
  cases head : linkSettings.head with
  | none => simp [splash, Panel.isHandshake, LinkSettings.headed, Opcode.handshake, frameHead, head]
  | some first => simp [splash, Panel.isHandshake, LinkSettings.headed, Opcode.handshake, frameHead, head]

theorem welcome_sent {display : Display Panel} (isOpen : display.link.line.Open) :
    ∃ done : Display Panel, display.drawAll (welcome display.settings) = (.ok (), done) ∧
      done.link.line.writes =
        display.link.line.writes ++ (splash display.settings).flatMap display.link.settings.framed ∧
      done.link.line.replies = display.link.line.replies ∧
      done.link.state = display.link.state ∧
      done.link.framesSent = display.link.framesSent + 3 ∧
      done.link.received = display.link.received := by
  have sent : (display.link.transmitAll (splash display.settings)).1 = .ok () :=
    Link.transmitAll_accepted isOpen.accepts _
  obtain ⟨replies, framesSent, received⟩ :=
    Link.transmitAll_mute isOpen (splash_mute display.settings display.link.settings)
  refine ⟨(display.transmit (splash display.settings)).2, ?_, Link.transmitAll_recorded sent, replies,
    (display.link.transmitAll_keeps (splash display.settings)).state, framesSent, received⟩
  rw [drawAll_frames rfl (splash_frames display.settings)]
  exact Prod.ext sent rfl

theorem startWithin_unanswered {display : Display Panel} (attentive : display.link.Attentive) {attempts : Nat}
    (later : ∀ attempt, display.link.line.AnswersAt attempt → attempts < attempt) :
    ∃ after, display.startWithin attempts = (none, { display with link := after }) ∧
      Link.Tried attempts display.link after := by
  have unanswered : ∀ attempt, 0 < attempt → attempt ≤ attempts →
      ¬[0xAA, 0x00, 0x4F, 0x4B] <+: display.link.line.scripted attempt := by
    intro attempt counted within
    exact Panel.unanswered_before later counted within
  obtain ⟨silent, tried⟩ := Link.handshakeWithin_unanswered attentive unanswered
  exact ⟨_, startWithin_silent (Prod.ext silent rfl), tried⟩

theorem start_trying {display : Display Panel} (attentive : display.link.Attentive) {patience : Nat}
    (later : ∀ attempt, display.link.line.AnswersAt attempt → patience < attempt) :
    display.start? patience = none := by
  obtain ⟨_, silent, _⟩ := startWithin_unanswered attentive later
  unfold start?
  rw [silent]

structure Started (attempt : Nat) (before after : Display Panel) : Prop where
  writes : after.link.line.writes =
    before.link.line.writes ++ (List.replicate attempt [0x00]).flatMap before.link.settings.framed ++
      [[0x22, 0x00, before.settings.startupImage], [0x34, 0x5A, 0xA5, before.settings.rotation.code],
        [0x3D]].flatMap before.link.settings.framed
  replies : after.link.line.replies = before.link.line.replies.drop attempt
  state : after.link.state = .ready
  framesSent : after.link.framesSent = before.link.framesSent + (attempt + 3)
  received : after.link.received = []

theorem startWithin_first {display : Display Panel} (attentive : display.link.Attentive) {attempt : Nat}
    (found : display.link.line.AnswersAt attempt) :
    ∃ done : Display Panel, Started attempt display done ∧
      ∀ attempts, attempt ≤ attempts → display.startWithin attempts = (some (.ok ()), done) := by
  obtain ⟨after, tried, ready, answered⟩ := Link.handshakeWithin_answered attentive found
  obtain ⟨done, drawn, writes, replies, state, framesSent, received⟩ :=
    @welcome_sent { display with link := after } tried.attentive.isOpen
  have shown : drawAll { display with link := after } (welcome display.settings) = (.ok (), done) := drawn
  refine ⟨done, ⟨?_, replies.trans tried.replies, state.trans ready, ?_, received.trans tried.attentive.quiet⟩, ?_⟩
  · rw [writes, tried.settings, tried.writes]
    rfl
  · rw [framesSent, tried.framesSent, Nat.add_assoc]
  · intro attempts within
    rw [startWithin_answered (answered attempts within), shown]

-- What the starts of a display come to whose panel answers this attempt first.
structure Answered (attempt : Nat) (display done : Display Panel) : Prop extends Started attempt display done where
  bounded : ∀ attempts : UInt32, attempt ≤ attempts.toNat → display.startOrFail attempts = (.ok (), done)
  unbounded : ∀ patience, attempt ≤ patience → display.start? patience = some (.ok (), done)
  trying : ∀ patience, patience < attempt → display.start? patience = none

theorem start_answered {display : Display Panel} (attentive : display.link.Attentive) {attempt : Nat}
    (found : display.link.line.AnswersAt attempt) : ∃ done, Answered attempt display done := by
  obtain ⟨done, started, first⟩ := startWithin_first attentive found
  refine ⟨done, started, ?_, ?_, ?_⟩
  · intro attempts within
    unfold startOrFail
    rw [first _ within]
  · intro patience within
    unfold start?
    rw [first _ within]
  · intro patience before
    apply start_trying attentive
    intro other answers
    exact Nat.lt_of_lt_of_le before (found.least answers)

-- A bounded start whose last attempt comes before the first answer.
structure GivenUp (attempts : UInt32) (display : Display Panel) : Prop where
  failed : (display.startOrFail attempts).1 = .error (.handshakeFailed attempts.toNat)
  writes : (display.startOrFail attempts).2.link.line.writes =
    display.link.line.writes ++ (List.replicate attempts.toNat [0x00]).flatMap display.link.settings.framed
  replies : (display.startOrFail attempts).2.link.line.replies = display.link.line.replies.drop attempts.toNat
  framesSent : (display.startOrFail attempts).2.link.framesSent = display.link.framesSent + attempts.toNat

theorem start_givenUp {display : Display Panel} (attentive : display.link.Attentive) {attempts : UInt32}
    (later : ∀ attempt, display.link.line.AnswersAt attempt → attempts.toNat < attempt) : GivenUp attempts display := by
  obtain ⟨after, silent, tried⟩ := startWithin_unanswered attentive later
  have failed : display.startOrFail attempts =
      (.error (.handshakeFailed attempts.toNat), { display with link := after }) := by
    unfold startOrFail
    rw [silent]
  constructor
  · rw [failed]
  · rw [failed]
    exact tried.writes
  · rw [failed]
    exact tried.replies
  · rw [failed]
    exact tried.framesSent

-- Starting up in front of a panel that takes everything, whatever it is scripted to
-- answer: the first attempt that is answered decides.
theorem start_exact {display : Display Panel} (attentive : display.link.Attentive) :
    (∀ attempt, display.link.line.AnswersAt attempt → ∃ done : Display Panel, Answered attempt display done) ∧
    (∀ attempts : UInt32, (∀ attempt, display.link.line.AnswersAt attempt → attempts.toNat < attempt) →
      GivenUp attempts display) ∧
    ((∀ attempt, ¬display.link.line.AnswersAt attempt) → ∀ patience, display.start? patience = none) := by
  refine ⟨fun _ found => start_answered attentive found, fun _ later => start_givenUp attentive later, ?_⟩
  intro never patience
  apply start_trying attentive
  intro attempt found
  exact absurd found (never attempt)

theorem third_attempt_answered :
    let panel : Panel := { replies := [[], [0x13], [0xAA, 0x00, 0x4F, 0x4B, 0x01], [0xFF]] }
    let display : Display Panel := ⟨.ofLine panel { head := some 0xAA }, {}⟩
    let hello : List Bytes := [[0xAA, 0x00], [0xCC, 0x33, 0xC3, 0x3C]]
    display.link.Attentive ∧ panel.AnswersAt 3 ∧
      (display.startOrFail 2).1 = .error (.handshakeFailed 2) ∧
      (display.startOrFail 2).2.link.line.writes = hello ++ hello ∧
      ∃ done : Display Panel, display.startOrFail 5 = (.ok (), done) ∧ display.start? 7 = some (.ok (), done) ∧
        done.link.line.writes = hello ++ hello ++ hello ++
          [[0xAA, 0x22, 0x00, 0x00], frameTail, [0xAA, 0x34, 0x5A, 0xA5, 0x01], frameTail, [0xAA, 0x3D], frameTail] ∧
        done.link.line.replies = [[0xFF]] ∧ done.link.framesSent = 6 := by
  intro panel display hello
  have attentive : display.link.Attentive := ⟨.inr rfl, fun _ _ => rfl, rfl, rfl⟩
  have silent : ∀ attempt, 0 < attempt → attempt < 3 → ¬[0xAA, 0x00, 0x4F, 0x4B] <+: panel.scripted attempt := by
    intro attempt counted before
    obtain rfl | rfl : attempt = 1 ∨ attempt = 2 := by omega
    · decide
    · decide
  have found : panel.AnswersAt 3 := ⟨by decide, by decide, silent⟩
  have later : ∀ attempt, panel.AnswersAt attempt → (2 : UInt32).toNat < attempt := by
    intro attempt answers
    by_contra within
    exact silent attempt answers.counted (Nat.lt_succ_of_le (Nat.not_lt.mp within)) answers.answers
  obtain ⟨answered, unanswered, _⟩ := start_exact attentive
  have givenUp := unanswered 2 later
  obtain ⟨done, first⟩ := answered 3 found
  exact ⟨attentive, found, givenUp.failed, givenUp.writes, done, first.bounded 5 (by decide),
    first.unbounded 7 (by decide), first.writes, first.replies, first.framesSent⟩

end Display

end SerialPanel
