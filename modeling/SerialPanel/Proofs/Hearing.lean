import Mathlib.Data.List.DropRight
import SerialPanel.Stream
namespace SerialPanel

namespace Stream

def ReadResult.chunk? : ReadResult → Option Bytes
  | .data [] => none
  | .data bytes => some bytes
  | .fault _ => none

def ReadResult.isFailure : ReadResult → Bool
  | .data _ => false
  | .fault .timedOut => false
  | .fault .wouldBlock => false
  | .fault .interrupted => false
  | .fault _ => true

def received (reads : List ReadResult) : List Bytes := reads.filterMap ReadResult.chunk?

-- Failures behind the last data, or all of them where none came.
def failures (reads : List ReadResult) : Nat :=
  (reads.rtakeWhile fun read => read.chunk?.isNone).countP ReadResult.isFailure

structure Regular (reads : List ReadResult) : Prop where
  sized : ∀ bytes, .data bytes ∈ reads → bytes ≠ [] ∧ bytes.length ≤ 64
  spaced : ∀ stretch, stretch <:+: reads → (∀ read ∈ stretch, read.chunk? = none) →
    stretch.countP ReadResult.isFailure < 10

theorem failures_data (heard : List ReadResult) {read : ReadResult} (filled : read.chunk? ≠ none) :
    failures (heard ++ [read]) = 0 := by
  rw [failures, List.rtakeWhile_concat_neg _ _ _ (by simpa using filled)]
  rfl

theorem failures_none (heard : List ReadResult) {read : ReadResult} (empty : read.chunk? = none) :
    failures (heard ++ [read]) = failures heard + if read.isFailure then 1 else 0 := by
  rw [failures, List.rtakeWhile_concat_pos _ _ _ (by simp [empty]), List.countP_append, List.countP_singleton]
  rfl

theorem received_snoc (heard : List ReadResult) (read : ReadResult) :
    received (heard ++ [read]) = received heard ++ read.chunk?.toList := by
  rw [received, List.filterMap_append]
  cases chunk : read.chunk? with
  | none => simp [received, chunk]
  | some bytes => simp [received, chunk]

theorem Regular.failures_lt {reads front : List ReadResult} (regular : Regular reads) (inside : front <+: reads) :
    failures front < 10 := by
  apply regular.spaced
  · exact (List.rtakeWhile_suffix _ front).isInfix.trans inside.isInfix
  · intro read member
    have empty := List.mem_rtakeWhile_imp member
    exact Option.isNone_iff_eq_none.mp empty

theorem Regular.endless {reads : List ReadResult} (regular : Regular reads) : .data [] ∉ reads := by
  intro ended
  exact (regular.sized [] ended).1 rfl

theorem Regular.finished {reads front back : List ReadResult} (regular : Regular reads)
    (course : front ++ back <+: reads ++ [.data []]) (ended : .data [] ∈ front) : back = [] := by
  rcases List.prefix_concat_iff.mp ((List.prefix_append front back).trans course) with whole | inside
  · rw [← whole] at course
    have nothing : front ++ back <+: front ++ [] := by
      rw [List.append_nil]
      exact course
    exact List.prefix_nil.mp ((List.prefix_append_right_inj front).mp nothing)
  · exact absurd (inside.subset ended) regular.endless

theorem Regular.few {reads front : List ReadResult} (regular : Regular reads)
    (course : front <+: reads ++ [.data []]) : failures front < 10 := by
  rcases List.prefix_concat_iff.mp course with whole | inside
  · rw [whole, failures_none reads rfl]
    exact regular.failures_lt List.prefix_rfl
  · exact regular.failures_lt inside

theorem Regular.short {reads front : List ReadResult} (regular : Regular reads)
    (course : front <+: reads ++ [.data []]) {bytes : Bytes} (member : .data bytes ∈ front) : bytes.length ≤ readLimit := by
  rcases List.mem_append.mp (course.subset member) with inside | last
  · exact (regular.sized bytes inside).2
  · cases List.mem_singleton.mp last
    exact Nat.zero_le _

theorem isIdle_iff (kind : LineFault.Kind) : isIdle kind = !(ReadResult.fault kind).isFailure := by
  cases kind <;> rfl

def current (stream : Stream) : Nat := stream.callbacks.length - 1

def held (stream : Stream) (callback : Nat) : Bytes := stream.buffers.getD callback []

def handed (stream : Stream) (callback : Nat) : Bytes :=
  ((stream.delivered.reverse.filter fun entry => entry.1 = callback).map Prod.snd).flatten

def Sound (stream : Stream) : Prop := ∀ breaks ∈ stream.callbacks.map Prod.snd, breaks = false

theorem hear_idle (stream : Stream) {kind : LineFault.Kind} (idle : isIdle kind = true) :
    stream.hear (.fault kind) = stream := by
  simp only [hear, outcome, if_pos idle]

theorem hear_failure (stream : Stream) {kind : LineFault.Kind} (failure : isIdle kind = false)
    (few : stream.faults + 1 < maxReadFaults) :
    stream.hear (.fault kind) = { stream with faults := stream.faults + 1 } := by
  have further : ¬maxReadFaults ≤ stream.faults + 1 := Nat.not_le_of_lt few
  simp only [hear, outcome, failure, Bool.false_eq_true, if_false, if_neg further]

theorem hear_data {stream : Stream} (sound : stream.Sound) {bytes : Bytes} (filled : bytes ≠ []) :
    stream.hear (.data bytes) =
      { stream with
        space := overwrite stream.space bytes
        faults := 0
        delivered := (stream.current, bytes) :: stream.delivered
        callbacks := stream.callbacks.modify stream.current fun (buffer, breaks) => (buffer ++ bytes, breaks) } := by
  have delivers : outcome stream.faults (.data bytes) = .deliver bytes := by
    cases bytes with
    | nil => exact absurd rfl filled
    | cons byte later => rfl
  simp only [hear, delivers, overwrite_take, deliver]
  split
  · rename_i buffer found
    have broken := sound true (List.mem_map.mpr ⟨_, List.mem_of_getElem? found, rfl⟩)
    cases broken
  · rfl

structure Passed (chunks : List Bytes) (before after : Stream) : Prop where
  delivered : after.delivered = (chunks.map fun chunk => (before.current, chunk)).reverse ++ before.delivered
  held : ∀ callback, after.held callback =
    before.held callback ++ if callback = before.current then chunks.flatten else []
  callbacks : after.callbacks.map Prod.snd = before.callbacks.map Prod.snd
  unread : after.unread = before.unread
  readers : after.readers = before.readers
  closed : after.closed = before.closed

theorem callbacks_length {before after : List (Bytes × Bool)} (breaks : after.map Prod.snd = before.map Prod.snd) :
    after.length = before.length := by
  have same := congrArg List.length breaks
  rwa [List.length_map, List.length_map] at same

theorem Passed.current {chunks : List Bytes} {before after : Stream} (passed : Passed chunks before after) :
    after.current = before.current := by
  rw [Stream.current, Stream.current, callbacks_length passed.callbacks]

theorem Passed.sound {chunks : List Bytes} {before after : Stream} (passed : Passed chunks before after)
    (sound : before.Sound) : after.Sound := by
  unfold Sound
  rw [passed.callbacks]
  exact sound

theorem Passed.silent {before after : Stream} (delivered : after.delivered = before.delivered)
    (callbacks : after.callbacks = before.callbacks) (unread : after.unread = before.unread)
    (readers : after.readers = before.readers) (closed : after.closed = before.closed) : Passed [] before after where
  delivered := delivered
  held callback := by
    rw [Stream.held, Stream.held, buffers, buffers, callbacks]
    simp
  callbacks := by rw [callbacks]
  unread := unread
  readers := readers
  closed := closed

theorem Passed.trans {first second : List Bytes} {before between after : Stream} (one : Passed first before between)
    (two : Passed second between after) : Passed (first ++ second) before after where
  delivered := by rw [two.delivered, one.delivered, one.current, List.map_append, List.reverse_append, List.append_assoc]
  held callback := by
    rw [two.held, one.held, one.current, List.append_assoc]
    split
    · rw [List.flatten_append]
    · rfl
  callbacks := two.callbacks.trans one.callbacks
  unread := two.unread.trans one.unread
  readers := two.readers.trans one.readers
  closed := two.closed.trans one.closed

theorem addressed (chunks : List Bytes) (owner callback : Nat) :
    ((chunks.map fun chunk => (owner, chunk)).filter fun entry => entry.1 = callback).map Prod.snd =
      if callback = owner then chunks else [] := by
  induction chunks with
  | nil => simp
  | cons chunk later ih =>
    rw [List.map_cons, List.filter_cons]
    by_cases same : callback = owner
    · simp_all
    · have apart : ¬owner = callback := fun other => same other.symm
      simp_all

theorem Passed.handed {chunks : List Bytes} {before after : Stream} (passed : Passed chunks before after)
    (callback : Nat) :
    after.handed callback = before.handed callback ++ if callback = before.current then chunks.flatten else [] := by
  rw [Stream.handed, Stream.handed, passed.delivered, List.reverse_append, List.reverse_reverse, List.filter_append,
    List.map_append, List.flatten_append, addressed]
  split
  · rfl
  · rfl

structure Followed (heard : List ReadResult) (stream : Stream) : Prop where
  faults : stream.faults = failures heard
  ended : stream.ended = true ↔ .data [] ∈ heard
  delivered : stream.delivered.reverse.map Prod.snd = received heard

theorem Followed.silent {heard : List ReadResult} {read : ReadResult} {before after : Stream}
    (followed : Followed heard before) (empty : read.chunk? = none)
    (faults : after.faults = before.faults + if read.isFailure then 1 else 0)
    (ended : after.ended = true ↔ .data [] ∈ heard ++ [read]) (delivered : after.delivered = before.delivered) :
    Followed (heard ++ [read]) after where
  faults := by rw [faults, followed.faults, failures_none heard empty]
  ended := ended
  delivered := by
    rw [delivered, received_snoc, empty]
    exact followed.delivered.trans (List.append_nil _).symm

theorem modified_held (stream : Stream) (registered : 0 < stream.callbacks.length) (bytes : Bytes) (callback : Nat) :
    ((stream.callbacks.modify stream.current fun (buffer, breaks) => (buffer ++ bytes, breaks)).map Prod.fst).getD
        callback [] =
      stream.held callback ++ if callback = stream.current then bytes else [] := by
  unfold held buffers current
  rw [List.getD_eq_getElem?_getD, List.getD_eq_getElem?_getD, List.getElem?_map, List.getElem?_map,
    List.getElem?_modify]
  by_cases same : callback = stream.callbacks.length - 1
  · have inside : callback < stream.callbacks.length := by omega
    rw [List.getElem?_eq_getElem inside, if_pos same]
    simp [same]
  · have apart : ¬stream.callbacks.length - 1 = callback := fun other => same other.symm
    simp [same, apart]

theorem modified_breaks (stream : Stream) (bytes : Bytes) :
    (stream.callbacks.modify stream.current fun (buffer, breaks) => (buffer ++ bytes, breaks)).map Prod.snd =
      stream.callbacks.map Prod.snd := by
  apply List.ext_getElem?
  intro callback
  rw [List.getElem?_map, List.getElem?_map, List.getElem?_modify]
  cases stream.callbacks[callback]? with
  | none => rfl
  | some entry =>
    simp only [Option.map_eq_map, Option.map_some]
    split
    · rfl
    · rfl

theorem hear_incoming (stream : Stream) (read : ReadResult) : (stream.hear read).incoming = stream.incoming := by
  unfold hear
  split
  · unfold deliver
    simp only
    split
    · rfl
    · rfl
  · rfl
  · rfl

-- One read makes one call at most, of the callback in charge and with just the bytes
-- of that read; its failures are counted on or done with.
theorem hear_read {heard : List ReadResult} {stream : Stream} (followed : Followed heard stream)
    (sound : stream.Sound) (registered : 0 < stream.callbacks.length) (running : stream.ended = false)
    (read : ReadResult) (few : failures (heard ++ [read]) < 10) :
    Followed (heard ++ [read]) (stream.hear read) ∧ Passed read.chunk?.toList stream (stream.hear read) := by
  have unended : .data [] ∉ heard := by
    intro ended
    rw [followed.ended.mpr ended] at running
    cases running
  cases read with
  | data bytes =>
    cases bytes with
    | nil =>
      refine ⟨followed.silent rfl rfl ?_ rfl, .silent rfl rfl rfl rfl rfl⟩
      exact iff_of_true rfl (List.mem_append_right _ List.mem_cons_self)
    | cons byte later =>
      rw [hear_data sound (List.cons_ne_nil byte later)]
      refine ⟨⟨?_, ?_, ?_⟩, ⟨rfl, ?_, modified_breaks stream _, rfl, rfl, rfl⟩⟩
      · exact (failures_data heard (by simp [ReadResult.chunk?])).symm
      · simp [running, unended]
      · rw [received_snoc, ← followed.delivered]
        simp [ReadResult.chunk?]
      · intro callback
        have kept := modified_held stream registered (byte :: later) callback
        simpa [ReadResult.chunk?, held, buffers] using kept
  | fault kind =>
    have endless : .data [] ∉ heard ++ [.fault kind] := by simp [unended]
    cases idle : isIdle kind with
    | true =>
      have quiet : (ReadResult.fault kind).isFailure = false := by simpa [idle] using isIdle_iff kind
      rw [hear_idle stream idle]
      refine ⟨followed.silent rfl ?_ (iff_of_false (by simp [running]) endless) rfl, .silent rfl rfl rfl rfl rfl⟩
      rw [quiet]
      rfl
    | false =>
      have loud : (ReadResult.fault kind).isFailure = true := by simpa [idle] using isIdle_iff kind
      rw [failures_none heard rfl, loud, if_pos rfl, ← followed.faults] at few
      rw [hear_failure stream idle few]
      refine ⟨followed.silent rfl ?_ (iff_of_false (by simp [running]) endless) rfl, .silent rfl rfl rfl rfl rfl⟩
      rw [loud]
      rfl

theorem settle_idle {stream : Stream} (idle : stream.isReading = false) : stream.settle = stream := by
  rw [settle_eq, idle]
  rfl

theorem settle_read {stream : Stream} {read : ReadResult} {later : List ReadResult} (reading : stream.isReading = true)
    (short : ∀ bytes, read = .data bytes → bytes.length ≤ readLimit) (queue : stream.incoming = read :: later) :
    stream.settle = ({ stream with incoming := later }.hear read).settle := by
  have next : readOnce stream.incoming = some (read, later) := by
    rw [queue]
    cases read with
    | data bytes => exact if_pos (short bytes rfl)
    | fault kind => rfl
  rw [settle_eq, reading, if_pos rfl, next]

section

variable {reads : List ReadResult} (regular : Regular reads)

include regular

theorem settle_reads {incoming heard : List ReadResult} {stream : Stream} (course : heard ++ incoming <+: reads ++ [.data []])
    (followed : Followed heard stream) (sound : stream.Sound) (registered : 0 < stream.callbacks.length)
    (started : 0 < stream.readers) (unclosed : stream.closed = false) (queue : stream.incoming = incoming) :
    Followed (heard ++ incoming) stream.settle ∧ Passed (received incoming) stream stream.settle ∧
      stream.settle.incoming = [] := by
  induction incoming generalizing heard stream with
  | nil =>
    have settled : stream.settle = stream := by
      rw [settle_eq, queue]
      split <;> rfl
    rw [settled, List.append_nil]
    exact ⟨followed, .silent rfl rfl rfl rfl rfl, queue⟩
  | cons read later ih =>
    have running : stream.ended = false := by
      cases ended : stream.ended with
      | false => rfl
      | true =>
        have nothing := regular.finished course (followed.ended.mp ended)
        cases nothing
    have reading : stream.isReading = true := by simp [isReading, running, unclosed, started]
    have onward : (heard ++ [read]) ++ later <+: reads ++ [.data []] := by
      rw [List.append_assoc]
      exact course
    have heardNow := (List.prefix_append (heard ++ [read]) later).trans onward
    have short : ∀ bytes, read = .data bytes → bytes.length ≤ readLimit := by
      rintro bytes rfl
      exact regular.short heardNow (List.mem_append_right _ List.mem_cons_self)
    have advanced : Followed heard { stream with incoming := later } :=
      ⟨followed.faults, followed.ended, followed.delivered⟩
    have released : Passed [] stream { stream with incoming := later } := .silent rfl rfl rfl rfl rfl
    obtain ⟨after, passed⟩ := hear_read advanced sound registered running read (regular.few heardNow)
    have whole := released.trans passed
    rw [settle_read reading short queue]
    obtain ⟨told, rest, empty⟩ := ih onward after (whole.sound sound)
      (registered.trans_eq (callbacks_length whole.callbacks).symm) (started.trans_eq whole.readers.symm)
      (whole.closed.trans unclosed) (hear_incoming _ read)
    rw [List.append_assoc] at told
    refine ⟨told, ?_, empty⟩
    have joined := whole.trans rest
    rw [List.nil_append] at joined
    have split : received (read :: later) = read.chunk?.toList ++ received later := by
      unfold received
      cases chunk : read.chunk? <;> simp [chunk]
    rw [split]
    exact joined

end

end Stream

end SerialPanel
