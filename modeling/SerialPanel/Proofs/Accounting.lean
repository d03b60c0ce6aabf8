import SerialPanel.Inboxes
namespace SerialPanel

namespace Inboxes

structure Sound (inboxes : Inboxes) : Prop where
  handles : ∀ buffer ∈ inboxes.handles, buffer < inboxes.buffers.length
  callbacks : ∀ buffer ∈ inboxes.callbacks, buffer < inboxes.buffers.length

def target (inboxes : Inboxes) : Step → Option Nat
  | .append handle _ => inboxes.handles[handle]?
  | .drain handle => inboxes.handles[handle]?
  | .share handle => inboxes.handles[handle]?
  | .add => none
  | .callback handle => inboxes.handles[handle]?
  | .call callback _ => inboxes.callbacks[callback]?

def Step.chunk : Step → Option Bytes
  | .append _ data => some data
  | .call _ data => some data
  | _ => none

def given (inboxes : Inboxes) (buffer : Nat) (step : Step) : Option Bytes :=
  if inboxes.target step = some buffer then step.chunk else none

def taken (inboxes : Inboxes) (buffer : Nat) (step : Step) : Option Bytes :=
  if inboxes.target step = some buffer then (inboxes.advance step).1 else none

def appended (inboxes : Inboxes) (buffer : Nat) : List Step → List Bytes
  | [] => []
  | step :: later =>
    (inboxes.given buffer step).toList ++ (inboxes.advance step).2.appended buffer later

def drained (inboxes : Inboxes) (buffer : Nat) : List Step → List Bytes
  | [] => []
  | step :: later =>
    (inboxes.taken buffer step).toList ++ (inboxes.advance step).2.drained buffer later

theorem Sound.target {inboxes : Inboxes} (sound : inboxes.Sound) {step : Step} {buffer : Nat}
    (visits : inboxes.target step = some buffer) : buffer < inboxes.buffers.length := by
  cases step with
  | append handle data => exact sound.handles buffer (List.mem_of_getElem? visits)
  | drain handle => exact sound.handles buffer (List.mem_of_getElem? visits)
  | share handle => exact sound.handles buffer (List.mem_of_getElem? visits)
  | add => cases visits
  | callback handle => exact sound.handles buffer (List.mem_of_getElem? visits)
  | call callback data => exact sound.callbacks buffer (List.mem_of_getElem? visits)

inductive Effect (inboxes : Inboxes) : Step → Option Bytes → Inboxes → Prop where
  | append (step : Step) (visits : inboxes.target step = some buffer) (chunk : step.chunk = some data) :
      Effect inboxes step none (inboxes.extend buffer data)
  | drain (visits : inboxes.handles[handle]? = some buffer) :
      Effect inboxes (.drain handle) (some (inboxes.waiting buffer))
        { inboxes with buffers := inboxes.buffers.set buffer [] }
  | share (visits : inboxes.handles[handle]? = some buffer) :
      Effect inboxes (.share handle) none { inboxes with handles := inboxes.handles ++ [buffer] }
  | add :
      Effect inboxes .add none { inboxes with
        buffers := inboxes.buffers ++ [[]], handles := inboxes.handles ++ [inboxes.buffers.length] }
  | callback (visits : inboxes.handles[handle]? = some buffer) :
      Effect inboxes (.callback handle) none { inboxes with callbacks := inboxes.callbacks ++ [buffer] }
  | void (step : Step) (absent : inboxes.target step = none) : Effect inboxes step none inboxes

theorem advance_effect (inboxes : Inboxes) (step : Step) :
    Effect inboxes step (inboxes.advance step).1 (inboxes.advance step).2 := by
  cases step with
  | append handle data =>
    cases visits : inboxes.handles[handle]? with
    | none => simpa [advance, visits] using Effect.void (.append handle data) visits
    | some buffer => simpa [advance, visits] using Effect.append (.append handle data) visits rfl
  | drain handle =>
    cases visits : inboxes.handles[handle]? with
    | none => simpa [advance, visits] using Effect.void (.drain handle) visits
    | some buffer => simpa [advance, visits] using Effect.drain visits
  | share handle =>
    cases visits : inboxes.handles[handle]? with
    | none => simpa [advance, visits] using Effect.void (.share handle) visits
    | some buffer => simpa [advance, visits] using Effect.share visits
  | add => exact .add
  | callback handle =>
    cases visits : inboxes.handles[handle]? with
    | none => simpa [advance, visits] using Effect.void (.callback handle) visits
    | some buffer => simpa [advance, visits] using Effect.callback visits
  | call callback data =>
    cases visits : inboxes.callbacks[callback]? with
    | none => simpa [advance, visits] using Effect.void (.call callback data) visits
    | some buffer => simpa [advance, visits] using Effect.append (.call callback data) visits rfl

theorem extend_waiting {inboxes : Inboxes} {buffer : Nat} (present : buffer < inboxes.buffers.length)
    (data : Bytes) : (inboxes.extend buffer data).waiting buffer = inboxes.waiting buffer ++ data := by
  simp [waiting, extend, present]

theorem extend_other (inboxes : Inboxes) {buffer other : Nat} (apart : other ≠ buffer) (data : Bytes) :
    (inboxes.extend other data).waiting buffer = inboxes.waiting buffer := by
  simp [waiting, extend, apart]

theorem add_waiting (buffers : List Bytes) (buffer : Nat) :
    (buffers ++ [[]]).getD buffer [] = buffers.getD buffer [] := by
  grind

theorem Effect.other {inboxes after : Inboxes} {step : Step} {drained : Option Bytes} {buffer : Nat}
    (effect : Effect inboxes step drained after) (apart : inboxes.target step ≠ some buffer) :
    after.waiting buffer = inboxes.waiting buffer := by
  cases effect with
  | append _ visits chunk =>
    apply extend_other
    rintro rfl
    exact apart visits
  | @drain handle other visits =>
    have differs : other ≠ buffer := by
      rintro rfl
      exact apart visits
    simp [waiting, differs]
  | share visits => rfl
  | add => exact add_waiting inboxes.buffers buffer
  | callback visits => rfl
  | void _ absent => rfl

theorem Effect.accounts {inboxes after : Inboxes} {step : Step} {drained : Option Bytes} {buffer : Nat}
    (effect : Effect inboxes step drained after) (sound : inboxes.Sound) (here : inboxes.target step = some buffer) :
    drained.toList.flatten ++ after.waiting buffer = inboxes.waiting buffer ++ step.chunk.toList.flatten := by
  have present := sound.target here
  cases effect with
  | append _ visits chunk =>
    cases visits.symm.trans here
    simp [chunk, extend_waiting present]
  | drain visits =>
    cases visits.symm.trans here
    simp [Step.chunk, waiting, present]
  | share visits => exact (List.append_nil _).symm
  | add => cases here
  | callback visits => exact (List.append_nil _).symm
  | void _ absent =>
    rw [absent] at here
    cases here

theorem advance_accounts {inboxes : Inboxes} (sound : inboxes.Sound) (buffer : Nat) (step : Step) :
    (inboxes.taken buffer step).toList.flatten ++ (inboxes.advance step).2.waiting buffer =
      inboxes.waiting buffer ++ (inboxes.given buffer step).toList.flatten := by
  have effect := inboxes.advance_effect step
  unfold taken given
  split
  · rename_i here
    exact effect.accounts sound here
  · rename_i apart
    rw [effect.other apart]
    exact (List.append_nil _).symm

structure Grows (before after : Inboxes) : Prop where
  buffers : before.buffers.length ≤ after.buffers.length
  handles : before.handles <+: after.handles
  callbacks : before.callbacks <+: after.callbacks

theorem Grows.refl (inboxes : Inboxes) : Grows inboxes inboxes :=
  ⟨Nat.le_refl _, List.prefix_rfl, List.prefix_rfl⟩

theorem Grows.trans {first second third : Inboxes} (one : Grows first second) (two : Grows second third) :
    Grows first third :=
  ⟨Nat.le_trans one.buffers two.buffers, one.handles.trans two.handles, one.callbacks.trans two.callbacks⟩

theorem Effect.grows {inboxes after : Inboxes} {step : Step} {drained : Option Bytes}
    (effect : Effect inboxes step drained after) : Grows inboxes after := by
  cases effect with
  | append _ visits chunk => exact ⟨by simp [extend], List.prefix_rfl, List.prefix_rfl⟩
  | drain visits => exact ⟨by simp, List.prefix_rfl, List.prefix_rfl⟩
  | share visits => exact ⟨Nat.le_refl _, List.prefix_append .., List.prefix_rfl⟩
  | add => exact ⟨by simp, List.prefix_append .., List.prefix_rfl⟩
  | callback visits => exact ⟨Nat.le_refl _, List.prefix_rfl, List.prefix_append ..⟩
  | void _ absent => exact .refl inboxes

theorem Effect.sound {inboxes after : Inboxes} {step : Step} {drained : Option Bytes}
    (effect : Effect inboxes step drained after) (sound : inboxes.Sound) : after.Sound := by
  obtain ⟨handles, callbacks⟩ := sound
  cases effect with
  | append _ visits chunk => exact ⟨by simpa [extend] using handles, by simpa [extend] using callbacks⟩
  | drain visits => exact ⟨by simpa using handles, by simpa using callbacks⟩
  | share visits =>
    refine ⟨?_, callbacks⟩
    intro buffer member
    rcases List.mem_append.mp member with old | new
    · exact handles buffer old
    · cases List.mem_singleton.mp new
      exact handles _ (List.mem_of_getElem? visits)
  | add =>
    refine ⟨?_, ?_⟩
    · intro buffer member
      rcases List.mem_append.mp member with old | new
      · exact List.length_append ▸ Nat.lt_add_right _ (handles buffer old)
      · cases List.mem_singleton.mp new
        simp
    · intro buffer member
      exact List.length_append ▸ Nat.lt_add_right _ (callbacks buffer member)
  | callback visits =>
    refine ⟨handles, ?_⟩
    intro buffer member
    rcases List.mem_append.mp member with old | new
    · exact callbacks buffer old
    · cases List.mem_singleton.mp new
      exact handles _ (List.mem_of_getElem? visits)
  | void _ absent => exact ⟨handles, callbacks⟩

theorem run_cons (inboxes : Inboxes) (step : Step) (later : List Step) :
    inboxes.run (step :: later) = (inboxes.advance step).2.run later := rfl

theorem run_sound {inboxes : Inboxes} (sound : inboxes.Sound) (steps : List Step) : (inboxes.run steps).Sound := by
  induction steps generalizing inboxes with
  | nil => exact sound
  | cons step later ih => exact ih ((inboxes.advance_effect step).sound sound)

theorem run_grows (inboxes : Inboxes) (steps : List Step) : Grows inboxes (inboxes.run steps) := by
  induction steps generalizing inboxes with
  | nil => exact .refl inboxes
  | cons step later ih => exact (inboxes.advance_effect step).grows.trans (ih _)

theorem run_accounts {inboxes : Inboxes} (sound : inboxes.Sound) (buffer : Nat) (steps : List Step) :
    (inboxes.drained buffer steps).flatten ++ (inboxes.run steps).waiting buffer =
      inboxes.waiting buffer ++ (inboxes.appended buffer steps).flatten := by
  induction steps generalizing inboxes with
  | nil => exact (List.append_nil _).symm
  | cons step later ih =>
    have next := (inboxes.advance_effect step).sound sound
    rw [drained, appended, List.flatten_append, List.flatten_append, List.append_assoc, run_cons, ih next,
      ← List.append_assoc, advance_accounts sound, List.append_assoc]

theorem prefix_getElem? {front whole : List α} (longer : front <+: whole) {place : Nat} {entry : α}
    (found : front[place]? = some entry) : whole[place]? = some entry := by
  obtain ⟨back, rfl⟩ := longer
  rw [List.getElem?_append_left (List.getElem?_eq_some_iff.mp found).1, found]

theorem Grows.target {before after : Inboxes} (grows : Grows before after) {step : Step} {buffer : Nat}
    (visits : before.target step = some buffer) : after.target step = some buffer := by
  cases step with
  | append handle data => exact prefix_getElem? grows.handles visits
  | drain handle => exact prefix_getElem? grows.handles visits
  | share handle => exact prefix_getElem? grows.handles visits
  | add => cases visits
  | callback handle => exact prefix_getElem? grows.handles visits
  | call callback data => exact prefix_getElem? grows.callbacks visits

-- Nobody uses a handle or a callback that does not exist yet.
def Live (inboxes : Inboxes) : List Step → Prop
  | [] => True
  | step :: later =>
    (step = .add ∨ ∃ buffer, inboxes.target step = some buffer) ∧ (inboxes.advance step).2.Live later

section

variable {π : Type}

def pieces (inboxes : Inboxes) (buffer : Nat) : List (π × Step) → List (π × Bytes)
  | [] => []
  | (party, step) :: later =>
    ((inboxes.given buffer step).toList.map fun chunk => (party, chunk)) ++
      (inboxes.advance step).2.pieces buffer later

theorem pieces_chunks (inboxes : Inboxes) (buffer : Nat) (schedule : List (π × Step)) :
    (inboxes.pieces buffer schedule).map Prod.snd = inboxes.appended buffer (schedule.map Prod.snd) := by
  induction schedule generalizing inboxes with
  | nil => rfl
  | cons turn later ih =>
    obtain ⟨party, step⟩ := turn
    rw [pieces, List.map_append, ih, List.map_cons, appended]
    cases inboxes.given buffer step with
    | none => rfl
    | some data => rfl

variable [DecidableEq π]

def turns (party : π) (schedule : List (π × Step)) : List Step :=
  (schedule.filter fun turn => turn.1 = party).map Prod.snd

theorem given_later {inboxes after : Inboxes} (grows : Grows inboxes after) {step : Step}
    (live : step = .add ∨ ∃ buffer, inboxes.target step = some buffer) (buffer : Nat) :
    after.given buffer step = inboxes.given buffer step := by
  rcases live with rfl | ⟨own, visits⟩
  · rfl
  · unfold given
    rw [visits, grows.target visits]

theorem pieces_of_party {inboxes after : Inboxes} (buffer : Nat) (party : π) {schedule : List (π × Step)}
    (live : inboxes.Live (schedule.map Prod.snd)) (grows : Grows (inboxes.run (schedule.map Prod.snd)) after) :
    ((inboxes.pieces buffer schedule).filter fun piece => piece.1 = party).map Prod.snd =
      (turns party schedule).filterMap (after.given buffer) := by
  induction schedule generalizing inboxes with
  | nil => rfl
  | cons turn later ih =>
    obtain ⟨other, step⟩ := turn
    obtain ⟨known, rest⟩ := live
    have whole : Grows inboxes after := (inboxes.run_grows _).trans grows
    have own := given_later whole known buffer
    rw [pieces, List.filter_append, List.map_append, ih rest grows]
    by_cases same : other = party
    · cases chunk : inboxes.given buffer step with
      | none => simp [turns, same, own, chunk]
      | some data => simp [turns, same, own, chunk]
    · cases chunk : inboxes.given buffer step with
      | none => simp [turns, same]
      | some data => simp [turns, same]

def Interleaves (programs : π → List Step) (schedule : List (π × Step)) : Prop :=
  ∀ party, turns party schedule = programs party

-- What was drained from a buffer and what still waits in it is what was appended to
-- it, chunk behind chunk, whoever took which step through which handle or callback;
-- and the chunks of one producer stand in it whole and in the producer's order. The
-- length of the schedule is arbitrary, so this holds at every moment of a longer one.
theorem bytes_accounted {inboxes : Inboxes} (sound : inboxes.Sound) {programs : π → List Step}
    {schedule : List (π × Step)} (interleaved : Interleaves programs schedule)
    (live : inboxes.Live (schedule.map Prod.snd)) (buffer : Nat) :
    let past := schedule.map Prod.snd
    let now := inboxes.run past
    let stream := (inboxes.drained buffer past).flatten ++ now.waiting buffer
    stream = inboxes.waiting buffer ++ (inboxes.appended buffer past).flatten ∧
      (∃ pieces : List (π × Bytes), pieces.map Prod.snd = inboxes.appended buffer past ∧
        ∀ producer, (pieces.filter fun piece => piece.1 = producer).map Prod.snd =
          (programs producer).filterMap (now.given buffer)) ∧
      (∀ handle, now.handles[handle]? = some buffer →
        now.view[handle]? = some (now.waiting buffer) ∧
          (now.advance (.drain handle)).1 = some (now.waiting buffer) ∧
          (now.advance (.drain handle)).2.waiting buffer = []) ∧
      ∀ step, now.target step ≠ some buffer → (now.advance step).2.waiting buffer = now.waiting buffer := by
  intro past now stream
  refine ⟨run_accounts sound buffer past, ⟨inboxes.pieces buffer schedule, pieces_chunks .., ?_⟩, ?_, ?_⟩
  · intro producer
    rw [← interleaved producer]
    exact pieces_of_party buffer producer live (.refl now)
  · intro handle visits
    have present : buffer < now.buffers.length :=
      (run_sound sound past).handles buffer (List.mem_of_getElem? visits)
    refine ⟨by simp [view, visits], by simp [advance, visits], ?_⟩
    simp [advance, visits, waiting, present]
  · intro step apart
    exact (now.advance_effect step).other apart

end

theorem two_producers_accounted :
    let inboxes : Inboxes := ⟨[[0xAA], []], [0, 1], [0]⟩
    let programs (party : Fin 3) : List Step :=
      match party with
      | 0 => [.call 0 [0x01, 0x02], .call 0 [0x03]]
      | 1 => [.append 0 [0x11], .append 1 [0x12], .append 0 [0x13]]
      | 2 => [.share 0, .drain 2, .drain 2]
    let schedule : List (Fin 3 × Step) :=
      [(2, .share 0), (0, .call 0 [0x01, 0x02]), (1, .append 0 [0x11]), (2, .drain 2), (1, .append 1 [0x12]),
        (0, .call 0 [0x03]), (2, .drain 2), (1, .append 0 [0x13])]
    let past := schedule.map Prod.snd
    inboxes.Sound ∧ Interleaves programs schedule ∧ inboxes.Live past ∧
      inboxes.drained 0 past = [[0xAA, 0x01, 0x02, 0x11], [0x03]] ∧
      (inboxes.drained 0 past).flatten ++ (inboxes.run past).waiting 0 =
        [0xAA] ++ [0x01, 0x02, 0x11, 0x03, 0x13] ∧
      ∃ pieces : List (Fin 3 × Bytes), pieces.map Prod.snd = [[0x01, 0x02], [0x11], [0x03], [0x13]] ∧
        (pieces.filter fun piece => piece.1 = 1).map Prod.snd = [[0x11], [0x13]] := by
  intro inboxes programs schedule past
  have sound : inboxes.Sound := ⟨by decide, by decide⟩
  have interleaved : Interleaves programs schedule := by
    intro party
    match party with
    | 0 => rfl
    | 1 => rfl
    | 2 => rfl
  have live : inboxes.Live past :=
    ⟨.inr ⟨0, rfl⟩, .inr ⟨0, rfl⟩, .inr ⟨0, rfl⟩, .inr ⟨0, rfl⟩, .inr ⟨1, rfl⟩, .inr ⟨0, rfl⟩, .inr ⟨0, rfl⟩,
      .inr ⟨0, rfl⟩, trivial⟩
  have drained : inboxes.drained 0 past = [[0xAA, 0x01, 0x02, 0x11], [0x03]] := by decide +kernel
  have appended : inboxes.appended 0 past = [[0x01, 0x02], [0x11], [0x03], [0x13]] := by decide +kernel
  have own : (programs 1).filterMap ((inboxes.run past).given 0) = [[0x11], [0x13]] := by decide +kernel
  obtain ⟨account, ⟨pieces, chunks, ordered⟩, _, _⟩ := bytes_accounted sound interleaved live 0
  rw [appended] at account chunks
  exact ⟨sound, interleaved, live, drained, account, pieces, chunks, (ordered 1).trans own⟩

end Inboxes

end SerialPanel
