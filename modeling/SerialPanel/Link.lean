import SerialPanel.Handshake
import SerialPanel.Line
import SerialPanel.Settings
namespace SerialPanel

structure Link (σ : Type) where
  line : σ
  settings : LinkSettings
  state : LinkState := default
  received : Bytes := []
  -- Clear once somebody else has taken over what arrives.
  listening : Bool := true
  framesSent : Nat := 0

namespace Link

variable {σ : Type}

def ofLine (line : σ) (settings : LinkSettings) : Link σ := { line, settings }

def arrive (link : Link σ) (bytes : Bytes) : Link σ :=
  if link.listening then { link with received := link.received ++ bytes } else link

def drain (link : Link σ) : Bytes × Link σ := (link.received, { link with received := [] })

def release (link : Link σ) : Link σ := { link with listening := false }

variable [Line σ]

def write (link : Link σ) (bytes : Bytes) : Except LineFault Unit × Link σ :=
  let written := Line.write link.line bytes
  (written.result, { link with line := written.line }.arrive written.arrived)

def wait (link : Link σ) (millis : UInt64) : Link σ :=
  let (arrived, line) := Line.wait link.line millis.toNat
  { link with line }.arrive arrived

def transmit (link : Link σ) (content : Bytes) : Except Fault Unit × Link σ :=
  match link.write (link.settings.headed content) with
  | (.error source, link) => (.error (.transport "frame write" source), link)
  | (.ok _, link) =>
    match link.write frameTail with
    | (.error source, link) => (.error (.transport "frame tail write" source), link)
    | (.ok _, link) =>
      (.ok (), { link with framesSent := link.framesSent + 1 }.wait link.settings.frameDelay)

def send (link : Link σ) (frame : Frame) : Except Fault Unit × Frame × Link σ :=
  let (result, link) := link.transmit frame.content
  (result, .empty, link)

def transmitAll (link : Link σ) : List Bytes → Except Fault Unit × Link σ
  | [] => (.ok (), link)
  | content :: later =>
    match link.transmit content with
    | (.error fault, link) => (.error fault, link)
    | (.ok _, link) => link.transmitAll later

def poll (link : Link σ) (collector : Collector) : Bool × Link σ :=
  let (data, link) := (link.wait link.settings.pollInterval).drain
  match _recorded : collector.record data with
  | (.acknowledged, _) => (true, link)
  | (.exhausted, _) => (false, link)
  | (.pending, next) => link.poll next
termination_by (collector.maxResyncs - collector.resyncs, collector.maxPolls - collector.polls)
decreasing_by
  obtain ⟨polls, resyncs, step⟩ := collector.record_pending next data _recorded
  rw [Prod.lex_def]
  simp only
  omega

theorem poll_eq (link : Link σ) (collector : Collector) :
    link.poll collector =
      let waited := link.wait link.settings.pollInterval
      match collector.record waited.received with
      | (.acknowledged, _) => (true, waited.drain.2)
      | (.exhausted, _) => (false, waited.drain.2)
      | (.pending, next) => waited.drain.2.poll next := by
  rw [poll]
  simp only [drain]
  split <;> simp_all

-- One attempt: the handshake frame, a wait, then polls. A panel that does not
-- answer is no fault, and a link that was ready stays so.
def handshake (link : Link σ) : Except Fault Bool × Link σ :=
  match { link with state := link.state.attempted }.transmit [Opcode.handshake] with
  | (.error fault, link) => (.error fault, link)
  | (.ok _, link) =>
    let link := link.wait link.settings.handshakeSettle
    match link.poll (.start link.settings.maxPolls.toNat link.settings.maxResyncs.toNat) with
    | (true, link) => (.ok true, { link with state := .ready })
    | (false, link) => (.ok false, link)

def handshakeWithin (link : Link σ) : Nat → Except Fault Bool × Link σ
  | 0 => (.ok false, link)
  | attempts + 1 =>
    match link.handshake with
    | (.ok false, link) => link.handshakeWithin attempts
    | (result, link) => (result, link)

end Link

end SerialPanel
