import SerialPanel.Proofs.Hearing
namespace SerialPanel

namespace Stream

def Action.reads : Action → List ReadResult
  | .feed results => results
  | _ => []

def Action.registers : Action → Bool
  | .register _ => true
  | _ => false

def fed (actions : List Action) : List ReadResult := actions.flatMap Action.reads

def registrations (actions : List Action) : Nat := actions.countP Action.registers

-- Nothing is read before the first callback; from then on every read is heard.
def heard (actions : List Action) : List ReadResult := if registrations actions = 0 then [] else fed actions

def Action.Steady : Action → Prop
  | .register breaks => breaks = false
  | .close => False
  | _ => True

def Answer.bytes (callback : Nat) : Answer → Bytes
  | .drained buffers => buffers.getD callback []
  | _ => []

def drained (stream : Stream) (callback : Nat) : List Action → Bytes
  | [] => []
  | action :: later =>
    (stream.advance action).1.bytes callback ++ (stream.advance action).2.drained callback later

theorem drained_snoc (stream : Stream) (callback : Nat) (actions : List Action) (action : Action) :
    stream.drained callback (actions ++ [action]) =
      stream.drained callback actions ++ ((stream.run actions).advance action).1.bytes callback := by
  induction actions generalizing stream with
  | nil => exact List.append_nil _
  | cons first later ih =>
    rw [List.cons_append, drained, drained, ih, List.append_assoc]
    rfl

theorem fed_snoc (actions : List Action) (action : Action) : fed (actions ++ [action]) = fed actions ++ action.reads := by
  simp [fed]

theorem registrations_snoc (actions : List Action) (action : Action) :
    registrations (actions ++ [action]) = registrations actions + if action.registers then 1 else 0 := by
  rw [registrations, List.countP_append, List.countP_singleton]
  rfl

structure Told (front : List ReadResult) (actions : List Action) (now : Stream) : Prop where
  followed : Followed front now
  queue : front ++ now.incoming = fed actions
  callbacks : now.callbacks.length = registrations actions
  sound : now.Sound
  unread : now.unread = decide (registrations actions = 0)
  readers : now.readers = min (registrations actions) 1
  unclosed : now.closed = false
  owned : ∀ entry ∈ now.delivered, entry.1 < registrations actions

theorem Told.nothing : Told [] [] {} where
  followed := ⟨rfl, by simp, rfl⟩
  queue := rfl
  callbacks := rfl
  sound := by simp [Sound]
  unread := rfl
  readers := rfl
  unclosed := rfl
  owned := by simp

section

variable {front : List ReadResult} {actions : List Action} {now : Stream} (told : Told front actions now)

include told

theorem Told.fed (results : List ReadResult) :
    Told front (actions ++ [.feed results]) { now with incoming := now.incoming ++ results } := by
  have count : registrations (actions ++ [.feed results]) = registrations actions :=
    registrations_snoc actions (.feed results)
  constructor
  · exact ⟨told.followed.faults, told.followed.ended, told.followed.delivered⟩
  · rw [fed_snoc, ← told.queue, List.append_assoc]
    rfl
  · exact told.callbacks.trans count.symm
  · exact told.sound
  · rw [count]
    exact told.unread
  · rw [count]
    exact told.readers
  · exact told.unclosed
  · rw [count]
    exact told.owned

theorem Told.unseen {action : Action} (feeds : action.reads = []) (registers : action.registers = false) (sink : Sink)
    {callbacks : List (Bytes × Bool)} (breaks : callbacks.map Prod.snd = now.callbacks.map Prod.snd) :
    Told front (actions ++ [action]) { now with sink, callbacks } := by
  have count : registrations (actions ++ [action]) = registrations actions := by simp [registrations_snoc, registers]
  constructor
  · exact ⟨told.followed.faults, told.followed.ended, told.followed.delivered⟩
  · rw [fed_snoc, feeds, List.append_nil]
    exact told.queue
  · rw [callbacks_length breaks, count]
    exact told.callbacks
  · unfold Sound
    rw [breaks]
    exact told.sound
  · rw [count]
    exact told.unread
  · rw [count]
    exact told.readers
  · exact told.unclosed
  · rw [count]
    exact told.owned

-- The first callback takes the read half away, so that no later one finds it.
theorem Told.registered : Told front (actions ++ [.register false]) (now.register false) := by
  have count : registrations (actions ++ [.register false]) = registrations actions + 1 :=
    registrations_snoc actions (.register false)
  have started : (now.register false) =
      { now with callbacks := now.callbacks ++ [([], false)], unread := false, readers := 1 } := by
    have unread := told.unread
    have readers := told.readers
    unfold register start
    rcases Nat.eq_zero_or_pos (registrations actions) with unregistered | registered
    · rw [unregistered] at unread readers
      simp_all
    · rw [decide_eq_false (Nat.ne_of_gt registered)] at unread
      rw [Nat.min_eq_right registered] at readers
      simp_all
  rw [started]
  constructor
  · exact ⟨told.followed.faults, told.followed.ended, told.followed.delivered⟩
  · rw [fed_snoc]
    exact told.queue.trans (List.append_nil _).symm
  · rw [count, List.length_append, told.callbacks]
    rfl
  · unfold Sound
    rw [List.map_append]
    intro breaks member
    rcases List.mem_append.mp member with old | new
    · exact told.sound breaks old
    · exact List.mem_singleton.mp new
  · rw [count]
    rfl
  · rw [count]
    exact (Nat.min_eq_right (Nat.succ_pos _)).symm
  · exact told.unclosed
  · rw [count]
    intro entry member
    exact Nat.lt_succ_of_lt (told.owned entry member)

theorem Told.settled {reads : List ReadResult} (regular : Regular reads)
    (course : Stream.fed actions <+: reads ++ [.data []]) (registered : 0 < registrations actions) :
    Told (Stream.fed actions) actions now.settle ∧ ∃ chunks, Passed chunks now now.settle := by
  have readers : now.readers = 1 := told.readers.trans (Nat.min_eq_right registered)
  obtain ⟨followed, passed, empty⟩ := settle_reads regular (told.queue ▸ course) told.followed told.sound
    (told.callbacks ▸ registered) (readers ▸ Nat.one_pos) told.unclosed rfl
  rw [told.queue] at followed
  refine ⟨⟨followed, ?_, ?_, passed.sound told.sound, ?_, ?_, ?_, ?_⟩, _, passed⟩
  · rw [empty, List.append_nil]
  · rw [callbacks_length passed.callbacks, told.callbacks]
  · rw [passed.unread, told.unread]
  · rw [passed.readers, told.readers]
  · rw [passed.closed, told.unclosed]
  · rw [passed.delivered]
    intro entry member
    rcases List.mem_append.mp member with new | old
    · obtain ⟨chunk, _, rfl⟩ := List.mem_map.mp (List.mem_reverse.mp new)
      change now.callbacks.length - 1 < _
      rw [told.callbacks]
      exact Nat.sub_one_lt_of_lt registered
    · exact told.owned entry old

end

theorem register_held (stream : Stream) (breaks : Bool) (callback : Nat) :
    (stream.register breaks).held callback = stream.held callback := by
  have registered : (stream.register breaks).callbacks = stream.callbacks ++ [([], breaks)] := by
    unfold register start
    split <;> rfl
  unfold held buffers
  rw [registered, List.map_append]
  grind

theorem register_delivered (stream : Stream) (breaks : Bool) :
    (stream.register breaks).delivered = stream.delivered := by
  unfold register start
  split <;> rfl

structure Advanced (actions : List Action) (action : Action) (now after : Stream) (answer : Answer) : Prop where
  told : Told (heard (actions ++ [action])) (actions ++ [action]) after
  routed : ∃ chunks : List Bytes, after.delivered =
    (chunks.map fun chunk => (registrations (actions ++ [action]) - 1, chunk)).reverse ++ now.delivered
  accounts : ∀ callback, ∃ more, answer.bytes callback ++ after.held callback = now.held callback ++ more ∧
    after.handed callback = now.handed callback ++ more

theorem heard_none {actions : List Action} (unregistered : registrations actions = 0) : heard actions = [] := if_pos unregistered

theorem heard_some {actions : List Action} (registered : 0 < registrations actions) : heard actions = fed actions :=
  if_neg (Nat.ne_of_gt registered)

theorem advanced_silent {actions : List Action} {action : Action} {now after : Stream} {answer : Answer}
    (told : Told (heard (actions ++ [action])) (actions ++ [action]) after) (delivered : after.delivered = now.delivered)
    (drained : ∀ callback, answer.bytes callback ++ after.held callback = now.held callback) :
    Advanced actions action now after answer := by
  refine ⟨told, ⟨[], delivered⟩, ?_⟩
  intro callback
  refine ⟨[], ?_, ?_⟩
  · rw [drained, List.append_nil]
  · rw [handed, handed, delivered, List.append_nil]

theorem advanced_settled {reads : List ReadResult} (regular : Regular reads) {actions : List Action} {action : Action}
    {front : List ReadResult} {now before : Stream} {answer : Answer}
    (course : fed (actions ++ [action]) <+: reads ++ [.data []]) (registered : 0 < registrations (actions ++ [action]))
    (told : Told front (actions ++ [action]) before) (delivered : before.delivered = now.delivered)
    (held : ∀ callback, before.held callback = now.held callback) (nothing : ∀ callback, answer.bytes callback = []) :
    Advanced actions action now before.settle answer := by
  obtain ⟨after, chunks, passed⟩ := told.settled regular course registered
  rw [← heard_some registered] at after
  refine ⟨after, ⟨chunks, ?_⟩, ?_⟩
  · have owner : before.current = registrations (actions ++ [action]) - 1 := congrArg (· - 1) told.callbacks
    rw [← owner, ← delivered]
    exact passed.delivered
  · intro callback
    have handed : before.handed callback = now.handed callback := by rw [Stream.handed, Stream.handed, delivered]
    refine ⟨if callback = before.current then chunks.flatten else [], ?_, ?_⟩
    · rw [nothing, List.nil_append, ← held]
      exact passed.held callback
    · rw [← handed]
      exact passed.handed callback

theorem advance_advanced {reads : List ReadResult} (regular : Regular reads) {actions : List Action} {now : Stream}
    (told : Told (heard actions) actions now) {action : Action} (steady : action.Steady)
    (course : fed (actions ++ [action]) <+: reads ++ [.data []]) :
    Advanced actions action now (now.advance action).2 (now.advance action).1 := by
  have quiet : action.reads = [] → action.registers = false → heard (actions ++ [action]) = heard actions := by
    intro feeds registers
    simp [heard, fed_snoc, registrations_snoc, feeds, registers]
  cases action with
  | feed results =>
    have count : registrations (actions ++ [.feed results]) = registrations actions :=
      registrations_snoc actions (.feed results)
    rcases Nat.eq_zero_or_pos (registrations actions) with unregistered | registered
    · have idle : { now with incoming := now.incoming ++ results }.isReading = false := by
        simp [isReading, told.readers, unregistered]
      have before := told.fed results
      rw [heard_none unregistered, ← heard_none (count.trans unregistered)] at before
      change Advanced _ _ _ (settle _) _
      rw [settle_idle idle]
      exact advanced_silent before rfl fun _ => rfl
    · exact advanced_settled regular course (count ▸ registered) (told.fed results) rfl (fun _ => rfl) fun _ => rfl
  | register breaks =>
    cases steady
    have registered : 0 < registrations (actions ++ [.register false]) := by
      rw [registrations_snoc]
      exact Nat.succ_pos _
    exact advanced_settled regular course registered told.registered (register_delivered now false)
      (register_held now false) fun _ => rfl
  | script results flushes =>
    apply advanced_silent
    · rw [quiet rfl rfl]
      exact told.unseen rfl rfl _ rfl
    · rfl
    · intro callback
      rfl
  | write bytes =>
    apply advanced_silent
    · rw [quiet rfl rfl]
      exact told.unseen rfl rfl _ rfl
    · rfl
    · intro callback
      rfl
  | drain =>
    apply advanced_silent
    · rw [quiet rfl rfl]
      exact told.unseen rfl rfl now.sink List.map_map
    · rfl
    · intro callback
      change now.held callback ++ held _ callback = now.held callback
      unfold held buffers
      simp [advance]
      grind
  | close => cases steady

section

variable {reads : List ReadResult} {actions : List Action} (regular : Regular reads)
  (steady : ∀ action ∈ actions, action.Steady) (course : fed actions <+: reads ++ [.data []])

include regular steady course

theorem run_told : Told (heard actions) actions (({} : Stream).run actions) := by
  induction actions using List.reverseRecOn with
  | nil => exact .nothing
  | append_singleton front action ih =>
    rw [List.forall_mem_append] at steady
    have earlier : fed front <+: reads ++ [.data []] := by
      rw [fed_snoc] at course
      exact (List.prefix_append ..).trans course
    rw [run_snoc]
    exact (advance_advanced regular (ih steady.1 earlier) (steady.2 action List.mem_cons_self) course).told

theorem run_advanced {front : List Action} {action : Action} (inside : front ++ [action] <+: actions) :
    Advanced front action (({} : Stream).run front) (({} : Stream).run (front ++ [action]))
      ((({} : Stream).run front).advance action).1 := by
  have before : front <+: actions := (List.prefix_append ..).trans inside
  have along : ∀ played : List Action, played <+: actions → fed played <+: reads ++ [.data []] := by
    rintro played ⟨rest, rfl⟩
    rw [fed, List.flatMap_append] at course
    exact (List.prefix_append ..).trans course
  have told := run_told regular (fun other member => steady other (before.subset member)) (along front before)
  rw [run_snoc]
  exact advance_advanced regular told (steady action (inside.subset (by simp))) (along _ inside)

theorem run_accounts (callback : Nat) :
    drained {} callback actions ++ (({} : Stream).run actions).held callback =
      (({} : Stream).run actions).handed callback := by
  have along : ∀ front, front <+: actions → drained {} callback front ++ (({} : Stream).run front).held callback =
      (({} : Stream).run front).handed callback := by
    intro front inside
    induction front using List.reverseRecOn with
    | nil =>
      unfold held
      simp [drained, run, handed, buffers]
    | append_singleton front action ih =>
      obtain ⟨more, kept, handed⟩ := (run_advanced regular steady course inside).accounts callback
      have before := ih ((List.prefix_append ..).trans inside)
      rw [drained_snoc, List.append_assoc, kept, handed, ← before, List.append_assoc]
  exact along actions List.prefix_rfl

end

theorem Told.handed_all {front : List ReadResult} {actions : List Action} {now : Stream} (told : Told front actions now)
    (one : registrations actions = 1) : now.handed 0 = (received front).flatten := by
  have own : ∀ entry ∈ now.delivered.reverse, decide (entry.1 = 0) = true := by
    intro entry member
    have owned := told.owned entry (List.mem_reverse.mp member)
    rw [one] at owned
    exact decide_eq_true (Nat.lt_one_iff.mp owned)
  rw [handed, List.filter_eq_self.mpr own, told.followed.delivered]

-- A line that comes to its end behind these reads, as a course of actions leaves it.
structure Forwarded (reads : List ReadResult) (actions : List Action) (now : Stream) : Prop where
  delivered : now.delivered.reverse.map Prod.snd = received (heard actions)
  queue : heard actions ++ now.incoming = fed actions
  ended : now.ended = true ↔ .data [] ∈ heard actions
  faults : now.faults = failures (heard actions)
  complete : 0 < registrations actions → fed actions = reads ++ [.data []] →
    now.ended = true ∧ now.incoming = [] ∧ now.delivered.reverse.map Prod.snd = received reads
  readers : now.readers = min (registrations actions) 1
  routed : ∀ front action, front ++ [action] <+: actions → ∃ chunks : List Bytes,
    (({} : Stream).run (front ++ [action])).delivered =
      (chunks.map fun chunk => (registrations (front ++ [action]) - 1, chunk)).reverse ++
        (({} : Stream).run front).delivered
  accounts : ∀ callback, drained {} callback actions ++ now.held callback = now.handed callback
  collected : registrations actions = 1 → drained {} 0 actions ++ now.held 0 = (received (heard actions)).flatten

-- Every chunk is handed out once, in order and as it was read, to the callback last
-- registered, at any moment of any course of actions that neither stops the reader nor
-- breaks it; and what is drained of a buffer and still waits there was handed to its
-- callback.
theorem reads_forwarded {reads : List ReadResult} {actions : List Action} (regular : Regular reads)
    (steady : ∀ action ∈ actions, action.Steady) (course : fed actions <+: reads ++ [.data []]) :
    Forwarded reads actions (({} : Stream).run actions) ∧
    ∀ (stream : Stream) kind, kind = .timedOut ∨ kind = .wouldBlock ∨ kind = .interrupted →
      stream.hear (.fault kind) = stream := by
  have told : Told (heard actions) actions (({} : Stream).run actions) := run_told regular steady course
  have accounts := run_accounts regular steady course
  refine ⟨⟨told.followed.delivered, told.queue, told.followed.ended, told.followed.faults, ?_, told.readers, ?_,
    accounts, ?_⟩, ?_⟩
  · intro registered whole
    have all : heard actions = reads ++ [.data []] := (heard_some registered).trans whole
    have queue := told.queue
    have delivered := told.followed.delivered
    rw [heard_some registered, List.append_right_eq_self] at queue
    rw [all, received_snoc] at delivered
    refine ⟨told.followed.ended.mpr ?_, queue, delivered.trans (List.append_nil _)⟩
    rw [all]
    exact List.mem_append_right _ List.mem_cons_self
  · intro front action inside
    exact (run_advanced regular steady course inside).routed
  · intro one
    rw [accounts 0]
    exact told.handed_all one
  · intro stream kind idle
    apply hear_idle
    rcases idle with rfl | rfl | rfl
    · rfl
    · rfl
    · rfl

theorem two_callbacks_in_turn :
    let reads : List ReadResult :=
      [.fault .timedOut, .data [0xAA], .fault .brokenPipe, .data [0x00, 0x4F], .fault .interrupted, .data [0x4B]]
    let actions : List Action :=
      [.feed [.fault .timedOut, .data [0xAA]], .register false, .drain, .feed [.fault .brokenPipe, .data [0x00, 0x4F]],
        .register false, .feed [.fault .interrupted, .data [0x4B], .data []]]
    let now := ({} : Stream).run actions
    Regular reads ∧ (∀ action ∈ actions, action.Steady) ∧ fed actions = reads ++ [.data []] ∧
      now.delivered.reverse.map Prod.snd = [[0xAA], [0x00, 0x4F], [0x4B]] ∧ now.ended = true ∧ now.readers = 1 ∧
      drained {} 0 actions ++ now.held 0 = now.handed 0 := by
  intro reads actions now
  have regular : Regular reads := by
    constructor
    · simp [reads]
    · intro stretch inside _
      calc stretch.countP ReadResult.isFailure ≤ stretch.length := List.countP_le_length
        _ ≤ reads.length := inside.length_le
        _ < 10 := by decide
  have steady : ∀ action ∈ actions, action.Steady := by simp [actions, Action.Steady]
  have whole : fed actions = reads ++ [.data []] := rfl
  have forwarded : Forwarded reads actions now := (reads_forwarded regular steady (whole ▸ List.prefix_rfl)).1
  obtain ⟨ended, _, delivered⟩ := forwarded.complete (by decide) whole
  exact ⟨regular, steady, whole, delivered, ended, forwarded.readers, forwarded.accounts 0⟩

end Stream

end SerialPanel
