import SerialPanel.Display
import SerialPanel.Panel
namespace SerialPanel

inductive Outage where
  | none
  | now
  | since (number : Nat)
  deriving DecidableEq, Repr

def Outage.refuses : Outage → Nat → Bool
  | .none, _ => false
  | .now, _ => true
  | .since first, number => first ≤ number

structure Session where
  display : Display Panel
  outage : Outage := .none
  seen : Nat := 0

namespace Session

inductive Action where
  | queueReply (data : Bytes)
  | acknowledge
  | inject (data : Bytes)
  | refuseWrites (refuse : Bool)
  | refuseAfter (count : Nat)
  | clearLog
  | frames
  | wire
  | handshake
  | drain
  | send (frame : Frame)
  | write (bytes : Bytes)
  | releaseReceiver
  | settings
  | linkSettings
  | start
  | startOrFail (attempts : UInt32)
  | draw (command : Command)

inductive Answer where
  | nothing
  | failed (fault : Fault)
  | answered (acknowledged : Bool)
  | drained (bytes : Bytes)
  | frames (contents : List Bytes)
  | wire (bytes : Bytes)
  | sent (result : Except Fault Unit) (frame : Frame)
  | settings (settings : Settings)
  | linkSettings (settings : LinkSettings)
  | endless

def connect (settings : Settings) : Except Fault Session :=
  (Display.connect ({} : Panel) settings).map fun display => { display }

def panel (session : Session) : Panel := session.display.link.line

def withPanel (session : Session) (panel : Panel) : Session :=
  { session with display.link.line := panel }

def withLink (session : Session) (link : Link Panel) : Session :=
  { session with display.link := link }

def withOutage (session : Session) (outage : Outage) : Session :=
  { session.withPanel { session.panel with refuses := outage.refuses } with outage }

def scheduled (session : Session) (count : Nat) : Outage :=
  let number := session.panel.tried
  match session.outage with
  | .now => .now
  | .since first => if first < number then .since first else .since (number + count)
  | .none => .since (number + count)

-- Attempts after which nothing new can happen: the script is used up, the write
-- that the cable refuses has been reached, and one attempt has started with an
-- empty receive buffer.
def patience (session : Session) : Nat :=
  let untilRefused := match session.outage with
    | .since first => first - session.panel.tried
    | _ => 0
  session.panel.replies.length + untilRefused + 2

def ofResult : Except Fault Unit → Answer
  | .ok _ => .nothing
  | .error fault => .failed fault

def advance (session : Session) : Action → Answer × Session
  | .queueReply data =>
    let panel := session.panel
    (.nothing, session.withPanel { panel with replies := panel.replies ++ [data] })
  | .acknowledge => (.nothing, session.withPanel { session.panel with acknowledges := true })
  | .inject data => (.nothing, session.withLink (session.display.link.arrive data))
  | .refuseWrites refuse => (.nothing, session.withOutage (if refuse then .now else .none))
  | .refuseAfter count => (.nothing, session.withOutage (session.scheduled count))
  | .clearLog => (.nothing, { session.withPanel session.panel.clear with seen := 0 })
  | .frames => (.frames session.panel.frames, session)
  | .wire => (.wire session.panel.wire, session)
  | .handshake =>
    match session.display.link.handshake with
    | (.ok acknowledged, link) => (.answered acknowledged, session.withLink link)
    | (.error fault, link) => (.failed fault, session.withLink link)
  | .drain =>
    let (bytes, link) := session.display.link.drain
    (.drained bytes, session.withLink link)
  | .send frame =>
    let (result, frame, link) := session.display.link.send frame
    (.sent result frame, session.withLink link)
  | .write bytes =>
    match session.display.link.write bytes with
    | (.ok _, link) => (.nothing, session.withLink link)
    | (.error source, link) => (.failed (.ofLine source), session.withLink link)
  | .releaseReceiver => (.nothing, session.withLink session.display.link.release)
  | .settings => (.settings session.display.settings, session)
  | .linkSettings => (.linkSettings session.display.link.settings, session)
  | .start =>
    match session.display.start? session.patience with
    | some (result, display) => (ofResult result, { session with display })
    | none => (.endless, session)
  | .startOrFail attempts =>
    let (result, display) := session.display.startOrFail attempts
    (ofResult result, { session with display })
  | .draw command =>
    let (result, display) := session.display.draw command
    (ofResult result, { session with display })

def attempt (session : Session) : Except Fault Action → Answer × Session
  | .ok action => session.advance action
  | .error fault => (.failed fault, session)

def look (session : Session) : List Bytes × Session :=
  let log := session.panel.log
  ((log.take (log.length - session.seen)).reverse, { session with seen := log.length })

end Session

end SerialPanel
