import SerialPanel.Panel
import SerialPanel.Proofs.Transmission
namespace SerialPanel

namespace Panel

def answer (panel : Panel) (bytes : Bytes) : Bytes := if isHandshake bytes then panel.reply.1 else []

def took (panel : Panel) (bytes : Bytes) : Panel :=
  { panel with
    log := bytes :: panel.log
    tried := panel.tried + 1
    replies := if isHandshake bytes then panel.replies.tail else panel.replies }

def missed (panel : Panel) : Panel := { panel with tried := panel.tried + 1 }

theorem receive_refused {panel : Panel} (refused : panel.refuses panel.tried = true) (bytes : Bytes) :
    panel.receive bytes = ⟨.error disconnected, [], panel.missed⟩ := by
  simp [receive, refused, missed]

theorem receive_taken {panel : Panel} (taken : panel.refuses panel.tried = false) (bytes : Bytes) :
    panel.receive bytes = ⟨.ok (), panel.answer bytes, panel.took bytes⟩ := by
  by_cases greeting : isHandshake bytes = true
  · cases script : panel.replies <;> simp [receive, taken, greeting, answer, took, reply, script]
  · simp [receive, taken, greeting, answer, took]

@[simp] theorem took_writes (panel : Panel) (bytes : Bytes) :
    (panel.took bytes).writes = panel.writes ++ [bytes] := by
  simp [writes, took]

theorem took_mute {bytes : Bytes} (mute : isHandshake bytes = false) (panel : Panel) :
    panel.took bytes = { panel with log := bytes :: panel.log, tried := panel.tried + 1 } := by
  simp [took, mute]

def Open (panel : Panel) : Prop := ∀ number, panel.tried ≤ number → panel.refuses number = false

theorem Open.taken {panel : Panel} (isOpen : panel.Open) : panel.refuses panel.tried = false :=
  isOpen _ (Nat.le_refl _)

theorem Open.took {panel : Panel} (isOpen : panel.Open) (bytes : Bytes) : (panel.took bytes).Open :=
  fun number later => isOpen number (Nat.le_of_succ_le later)

theorem Open.accepts {panel : Panel} (isOpen : panel.Open) : Line.Accepts panel := by
  intro visits bytes
  induction visits generalizing panel with
  | nil =>
    change (panel.receive bytes).result = .ok ()
    rw [receive_taken isOpen.taken]
  | cons visit later ih =>
    rw [List.foldl_cons]
    cases visit with
    | wait millis => exact ih isOpen
    | write written =>
      have next : Line.visit panel (.write written) = panel.took written := by
        change (panel.receive written).line = _
        rw [receive_taken isOpen.taken]
      rw [next]
      exact ih (isOpen.took written)

end Panel

inductive Fate where
  | unheard
  | unclosed
  | whole
  deriving DecidableEq, Repr

namespace Fate

def ofWrites (refuses : Nat → Bool) (number : Nat) : Fate :=
  if refuses number then unheard else if refuses (number + 1) then unclosed else whole

def result : Fate → Except Fault Unit
  | unheard => .error (.transport "frame write" Panel.disconnected)
  | unclosed => .error (.transport "frame tail write" Panel.disconnected)
  | whole => .ok ()

-- Writes tried for a frame. A tail is tried only behind a content that was taken.
def tries : Fate → Nat
  | unheard => 1
  | unclosed => 2
  | whole => 2

def writes (content : Bytes) : Fate → List Bytes
  | unheard => []
  | unclosed => [content]
  | whole => [content, frameTail]

def sent : Fate → Nat
  | unheard => 0
  | unclosed => 0
  | whole => 1

theorem result_ok_iff (fate : Fate) : fate.result = .ok () ↔ fate = whole := by
  cases fate <;> simp [result]

theorem result_isOk (fate : Fate) : fate.result.isOk = decide (fate = whole) := by
  cases fate <;> rfl

end Fate

namespace Link

variable {link : Link Panel}

@[simp] theorem wait_silent (link : Link Panel) (millis : UInt64) : link.wait millis = link := by
  change link.arrive [] = link
  unfold arrive
  split
  · rw [List.append_nil]
  · rfl

theorem write_refused (refused : link.line.refuses link.line.tried = true) (bytes : Bytes) :
    link.write bytes = (.error Panel.disconnected, { link with line := link.line.missed }) := by
  have received : Line.write link.line bytes = ⟨.error Panel.disconnected, [], link.line.missed⟩ :=
    Panel.receive_refused refused bytes
  have nothing := wait_silent { link with line := link.line.missed } 0
  unfold write
  simp only [received, Prod.mk.injEq, true_and]
  exact nothing

def heard (link : Link Panel) (bytes : Bytes) : Link Panel :=
  { link with line := link.line.took bytes }.arrive (link.line.answer bytes)

theorem write_taken (taken : link.line.refuses link.line.tried = false) (bytes : Bytes) :
    link.write bytes = (.ok (), link.heard bytes) := by
  have received : Line.write link.line bytes = ⟨.ok (), link.line.answer bytes, link.line.took bytes⟩ :=
    Panel.receive_taken taken bytes
  unfold write
  simp only [received]
  rfl

@[simp] theorem heard_line (link : Link Panel) (bytes : Bytes) :
    (link.heard bytes).line = link.line.took bytes :=
  arrive_line ..

@[simp] theorem heard_settings (link : Link Panel) (bytes : Bytes) :
    (link.heard bytes).settings = link.settings :=
  arrive_settings ..

@[simp] theorem heard_framesSent (link : Link Panel) (bytes : Bytes) :
    (link.heard bytes).framesSent = link.framesSent :=
  arrive_framesSent ..

theorem heard_mute {bytes : Bytes} (mute : Panel.isHandshake bytes = false) (link : Link Panel) :
    link.heard bytes = { link with line := link.line.took bytes } := by
  have silent : link.line.answer bytes = [] := if_neg (Bool.eq_false_iff.mp mute)
  unfold heard
  rw [silent]
  exact wait_silent { link with line := link.line.took bytes } 0

theorem heard_tail (link : Link Panel) :
    link.heard frameTail = { link with line := link.line.took frameTail } :=
  heard_mute rfl link

theorem transmit_unheard (refused : link.line.refuses link.line.tried = true) (content : Bytes) :
    link.transmit content =
      (.error (.transport "frame write" Panel.disconnected), { link with line := link.line.missed }) := by
  unfold transmit
  rw [write_refused refused]

theorem transmit_unclosed (taken : link.line.refuses link.line.tried = false)
    (refused : link.line.refuses (link.line.tried + 1) = true) (content : Bytes) :
    link.transmit content =
      (.error (.transport "frame tail write" Panel.disconnected),
        { link.heard (link.settings.headed content) with
          line := (link.line.took (link.settings.headed content)).missed }) := by
  have tail : (link.heard (link.settings.headed content)).line.refuses
      (link.heard (link.settings.headed content)).line.tried = true := by
    rw [heard_line]
    exact refused
  unfold transmit
  rw [write_taken taken]
  simp only [write_refused tail, heard_line]

theorem transmit_whole (taken : link.line.refuses link.line.tried = false)
    (closed : link.line.refuses (link.line.tried + 1) = false) (content : Bytes) :
    link.transmit content =
      (.ok (), { link.heard (link.settings.headed content) with
        line := (link.line.took (link.settings.headed content)).took frameTail
        framesSent := link.framesSent + 1 }) := by
  have tail : (link.heard (link.settings.headed content)).line.refuses
      (link.heard (link.settings.headed content)).line.tried = false := by
    rw [heard_line]
    exact closed
  unfold transmit
  rw [write_taken taken]
  simp only [write_taken tail, heard_tail, wait_silent, heard_line, heard_framesSent]

structure Fated (fate : Fate) (content : Bytes) (before after : Link Panel) : Prop where
  settings : after.settings = before.settings
  refuses : after.line.refuses = before.line.refuses
  tried : after.line.tried = before.line.tried + fate.tries
  writes : after.line.writes = before.line.writes ++ fate.writes (before.settings.headed content)
  framesSent : after.framesSent = before.framesSent + fate.sent

def fate (link : Link Panel) : Fate := .ofWrites link.line.refuses link.line.tried

theorem transmit_fated (link : Link Panel) (content : Bytes) :
    (link.transmit content).1 = link.fate.result ∧ Fated link.fate content link (link.transmit content).2 := by
  unfold fate Fate.ofWrites
  cases first : link.line.refuses link.line.tried with
  | true =>
    rw [transmit_unheard first]
    exact ⟨rfl, rfl, rfl, rfl, (List.append_nil _).symm, rfl⟩
  | false =>
    cases second : link.line.refuses (link.line.tried + 1) with
    | true =>
      rw [transmit_unclosed first second]
      exact ⟨rfl, link.heard_settings _, rfl, rfl, Panel.took_writes .., link.heard_framesSent _⟩
    | false =>
      rw [transmit_whole first second]
      refine ⟨rfl, link.heard_settings _, rfl, rfl, ?_, rfl⟩
      simp [Fate.writes]

theorem transmit_recorded {content : Bytes} (sent : (link.transmit content).1 = .ok ()) :
    (link.transmit content).2.line.writes =
      link.line.writes ++ [link.settings.headed content, frameTail] := by
  obtain ⟨result, after⟩ := link.transmit_fated content
  have whole : link.fate = .whole := link.fate.result_ok_iff.mp (result.symm.trans sent)
  rw [after.writes, whole]
  rfl

theorem transmitAll_recorded {contents : List Bytes} (sent : (link.transmitAll contents).1 = .ok ()) :
    (link.transmitAll contents).2.line.writes =
      link.line.writes ++ contents.flatMap fun content => [link.settings.headed content, frameTail] := by
  induction contents generalizing link with
  | nil => simp [transmitAll]
  | cons content later ih =>
    rw [transmitAll_cons] at sent ⊢
    cases first : (link.transmit content).1 with
    | error fault =>
      rw [first] at sent
      cases sent
    | ok _ =>
      rw [first] at sent
      rw [ih sent, transmit_recorded first, (link.transmit_keeps content).settings]
      simp

end Link

end SerialPanel
