import SerialPanel.Proofs.Recording
namespace SerialPanel

theorem isAcknowledgement_iff (bytes : Bytes) :
    isAcknowledgement bytes = true ↔ [0xAA, 0x00, 0x4F, 0x4B] <+: bytes :=
  List.isPrefixOf_iff_prefix

namespace Collector

theorem acknowledgement_not_noise {bytes : Bytes} (answered : isAcknowledgement bytes = true) :
    isNoise bytes = false := by
  obtain ⟨rest, rfl⟩ := (isAcknowledgement_iff bytes).mp answered
  rfl

theorem count_open (collector : Collector) : collector.count.1 ≠ .acknowledged := by
  unfold count
  split <;> simp

theorem resync_open (collector : Collector) : collector.resync.1 ≠ .acknowledged := by
  unfold resync
  split <;> simp

theorem record_fresh {collector : Collector} (fresh : collector.bytes = []) (data : Bytes) :
    (collector.record data).1 = .acknowledged ↔ isAcknowledgement data = true := by
  unfold record
  split
  · rename_i empty
    rw [List.isEmpty_iff.mp empty]
    exact ⟨fun answered => absurd answered (count_open _), fun answered => by cases answered⟩
  · simp only [fresh, List.nil_append]
    split
    · rename_i noise
      refine ⟨fun answered => absurd answered (resync_open _), fun answered => ?_⟩
      rw [acknowledgement_not_noise answered] at noise
      cases noise
    · split
      · rename_i answered
        exact iff_of_true rfl answered
      · rename_i unanswered
        exact ⟨fun answered => absurd answered (count_open _), fun answered => absurd answered unanswered⟩

end Collector

namespace Panel

-- The panel knows a handshake without a head and behind its own head byte only.
def Greeted (head : Option UInt8) : Prop := head = none ∨ head = some 0xAA

instance : DecidablePred Greeted := fun head => inferInstanceAs (Decidable (head = none ∨ head = some 0xAA))

theorem isHandshake_iff (settings : LinkSettings) :
    isHandshake (settings.headed [Opcode.handshake]) = true ↔ Greeted settings.head := by
  unfold LinkSettings.headed Greeted
  cases settings.head with
  | none => exact iff_of_true rfl (.inl rfl)
  | some head => simp [isHandshake, Opcode.handshake, frameHead]

def greeting (panel : Panel) (head : Option UInt8) : Bytes :=
  if Greeted head then
    match panel.replies with
    | reply :: _ => reply
    | [] => if panel.acknowledges then [0xAA, 0x00, 0x4F, 0x4B] else []
  else []

def script (panel : Panel) (head : Option UInt8) : List Bytes :=
  if Greeted head then panel.replies.tail else panel.replies

theorem answer_handshake (panel : Panel) (settings : LinkSettings) :
    panel.answer (settings.headed [Opcode.handshake]) = panel.greeting settings.head := by
  unfold answer greeting reply
  by_cases greeted : Greeted settings.head
  · rw [if_pos ((isHandshake_iff settings).mpr greeted), if_pos greeted]
    cases panel.replies with
    | nil => rfl
    | cons reply later => rfl
  · rw [if_neg (fun known => greeted ((isHandshake_iff settings).mp known)), if_neg greeted]

theorem took_handshake (panel : Panel) (settings : LinkSettings) :
    panel.took (settings.headed [Opcode.handshake]) =
      { panel with
        log := settings.headed [Opcode.handshake] :: panel.log
        tried := panel.tried + 1
        replies := panel.script settings.head } := by
  unfold took script
  by_cases greeted : Greeted settings.head
  · rw [if_pos ((isHandshake_iff settings).mpr greeted), if_pos greeted]
  · rw [if_neg (fun known => greeted ((isHandshake_iff settings).mp known)), if_neg greeted]

end Panel

namespace Link

variable {link : Link Panel}

theorem heard_listening (listening : link.listening = true) (bytes : Bytes) :
    link.heard bytes =
      { link with line := link.line.took bytes, received := link.received ++ link.line.answer bytes } :=
  if_pos listening

theorem poll_silent (collector : Collector) (silent : link.received = []) :
    link.poll collector = (false, link) := by
  have drained : link.drain = ([], link) := by
    obtain ⟨line, settings, state, received, listening, framesSent⟩ := link
    cases silent
    rfl
  induction link, collector using poll.induct with
  | case1 link collector data later taken next recorded =>
    rw [wait_silent, drained] at taken
    cases taken
    exact absurd (congrArg Prod.fst recorded) collector.count_open
  | case2 link collector data later taken next recorded =>
    rw [wait_silent, drained] at taken
    cases taken
    rw [poll_eq]
    simp only [wait_silent, silent, recorded, drained]
  | case3 link collector data later taken next recorded ih =>
    rw [wait_silent, drained] at taken
    cases taken
    rw [poll_eq]
    simp only [wait_silent, silent, recorded, drained]
    exact ih silent drained

theorem poll_unanswered {collector : Collector} (unanswered : (collector.record link.received).1 ≠ .acknowledged) :
    link.poll collector = (false, { link with received := [] }) := by
  rw [poll_eq]
  simp only [wait_silent]
  split
  · rename_i next recorded
    rw [recorded] at unanswered
    exact absurd rfl unanswered
  · rfl
  · exact poll_silent _ rfl

theorem poll_answered {collector : Collector} (answered : (collector.record link.received).1 = .acknowledged) :
    link.poll collector = (true, { link with received := [] }) := by
  rw [poll_eq]
  simp only [wait_silent]
  split
  · rfl
  · rename_i next recorded
    rw [recorded] at answered
    cases answered
  · rename_i next recorded
    rw [recorded] at answered
    cases answered

theorem handshake_heard {heard : Link Panel}
    (sent : { link with state := link.state.attempted }.transmit [Opcode.handshake] = (.ok (), heard)) :
    link.handshake =
      (.ok (isAcknowledgement heard.received),
        { heard with
          received := []
          state := if isAcknowledgement heard.received then .ready else heard.state }) := by
  have fresh := Collector.record_fresh
    (show (Collector.start heard.settings.maxPolls.toNat heard.settings.maxResyncs.toNat).bytes = [] from rfl)
    heard.received
  unfold handshake
  rw [sent]
  simp only [wait_silent]
  cases answered : isAcknowledgement heard.received with
  | true => rw [poll_answered (fresh.mpr answered)]; rfl
  | false =>
    rw [poll_unanswered fun recorded => Bool.false_ne_true (answered.symm.trans (fresh.mp recorded))]
    rfl

-- One attempt, whatever waited from before, whatever the panel is scripted to say
-- and whichever writes it refuses. Bytes from before are joined with the answer.
theorem handshake_outcome (link : Link Panel) (listening : link.listening = true) :
    let hello := link.settings.headed [Opcode.handshake]
    let reply := link.line.greeting link.settings.head
    let begun := { link with state := link.state.attempted }
    let greeted := { link.line with
      log := hello :: link.line.log
      tried := link.line.tried + 2
      replies := link.line.script link.settings.head }
    (link.line.refuses link.line.tried = true →
      link.handshake =
        (.error (.transport "frame write" Panel.disconnected),
          { begun with line := { link.line with tried := link.line.tried + 1 } })) ∧
    (link.line.refuses link.line.tried = false → link.line.refuses (link.line.tried + 1) = true →
      link.handshake =
        (.error (.transport "frame tail write" Panel.disconnected),
          { begun with line := greeted, received := link.received ++ reply })) ∧
    (link.line.refuses link.line.tried = false → link.line.refuses (link.line.tried + 1) = false →
      link.handshake =
        (.ok (decide ([0xAA, 0x00, 0x4F, 0x4B] <+: link.received ++ reply)),
          { begun with
            line := { greeted with log := frameTail :: greeted.log }
            received := []
            framesSent := link.framesSent + 1
            state := if [0xAA, 0x00, 0x4F, 0x4B] <+: link.received ++ reply then .ready
              else link.state.attempted })) := by
  intro hello reply begun greeted
  have heard : begun.heard hello =
      { begun with line := link.line.took hello, received := link.received ++ reply } := by
    rw [heard_listening (show begun.listening = true from listening)]
    exact congrArg (fun answer => { begun with line := link.line.took hello, received := link.received ++ answer })
      (link.line.answer_handshake link.settings)
  have took : link.line.took hello = { greeted with tried := link.line.tried + 1 } :=
    link.line.took_handshake link.settings
  refine ⟨fun refused => ?_, fun taken refused => ?_, fun taken closed => ?_⟩
  · have unheard : begun.line.refuses begun.line.tried = true := refused
    unfold handshake
    rw [transmit_unheard unheard]
    rfl
  · have first : begun.line.refuses begun.line.tried = false := taken
    unfold handshake
    rw [transmit_unclosed first refused]
    change (_, { begun.heard hello with line := (link.line.took hello).missed }) = _
    rw [heard, took]
    rfl
  · have opens : isAcknowledgement (link.received ++ reply) =
        decide ([0xAA, 0x00, 0x4F, 0x4B] <+: link.received ++ reply) := by
      rw [Bool.eq_iff_iff, isAcknowledgement_iff, decide_eq_true_iff]
    have first : begun.line.refuses begun.line.tried = false := taken
    rw [handshake_heard (transmit_whole first closed _)]
    change (Except.ok (isAcknowledgement (begun.heard hello).received),
      { begun.heard hello with
        line := (link.line.took hello).took frameTail
        received := []
        framesSent := link.framesSent + 1
        state := if isAcknowledgement (begun.heard hello).received then .ready else (begun.heard hello).state }) = _
    rw [heard, took]
    simp only [opens, decide_eq_true_iff]
    rfl

theorem half_acknowledgement_completed :
    let link (refuses : Nat → Bool) : Link Panel :=
      { line := { replies := [[0x4F, 0x4B, 0x07]], refuses }
        settings := { head := some 0xAA }
        received := [0xAA, 0x00] }
    (link (· == 0)).handshake.1 = .error (.transport "frame write" Panel.disconnected) ∧
      (link (· == 0)).handshake.2.line.replies = [[0x4F, 0x4B, 0x07]] ∧
      (link (· == 1)).handshake.1 = .error (.transport "frame tail write" Panel.disconnected) ∧
      (link (· == 1)).handshake.2.received = [0xAA, 0x00, 0x4F, 0x4B, 0x07] ∧
      (link fun _ => false).handshake.1 = .ok true ∧
      (link fun _ => false).handshake.2.state = .ready ∧
      (link fun _ => false).handshake.2.line.frames = [[0xAA, 0x00]] := by
  intro link
  obtain ⟨unheard, _, _⟩ := handshake_outcome (link (· == 0)) rfl
  obtain ⟨_, unclosed, _⟩ := handshake_outcome (link (· == 1)) rfl
  obtain ⟨_, _, whole⟩ := handshake_outcome (link fun _ => false) rfl
  rw [unheard rfl, unclosed rfl rfl, whole rfl rfl]
  exact ⟨rfl, rfl, rfl, rfl, rfl, rfl, rfl⟩

end Link

end SerialPanel
