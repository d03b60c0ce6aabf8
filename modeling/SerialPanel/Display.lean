import SerialPanel.Link
namespace SerialPanel

-- One panel behind a line. Drawing does not look at the link state: whether the
-- panel has answered is the caller's to know.
structure Display (σ : Type) where
  link : Link σ
  settings : Settings

namespace Display

variable {σ : Type}

def connect (line : σ) (settings : Settings) : Except Fault (Display σ) :=
  settings.check.map fun _ => ⟨.ofLine line settings.link, settings⟩

variable [Line σ]

def transmit (display : Display σ) (frames : List Bytes) : Except Fault Unit × Display σ :=
  let (result, link) := display.link.transmitAll frames
  (result, { display with link })

def issue (display : Display σ) (command : Command) : Except Fault Unit × Display σ :=
  match command.frames display.settings.screen with
  | .error fault => (.error fault, display)
  | .ok frames => display.transmit frames

-- A rectangle takes its colour from the palette. Its own frame is made first, then
-- the palette is set by a command of its own, and then the frame is sent.
def drawRectangle (display : Display σ) (mode : RectangleMode) (color : Color)
    (x0 y0 x1 y1 : Int32) : Except Fault Unit × Display σ :=
  match (Instruction.rectangle mode x0.toInt y0.toInt x1.toInt y1.toInt).encode with
  | .error fault => (.error fault, display)
  | .ok frame =>
    match display.issue (.setPalette Color.white color) with
    | (.error fault, display) => (.error fault, display)
    | (.ok _, display) => display.transmit [frame]

def draw (display : Display σ) : Command → Except Fault Unit × Display σ
  | .drawRectangle mode color x0 y0 x1 y1 => display.drawRectangle mode color x0 y0 x1 y1
  | command => display.issue command

def drawAll (display : Display σ) : List Command → Except Fault Unit × Display σ
  | [] => (.ok (), display)
  | command :: later =>
    match display.draw command with
    | (.error fault, display) => (.error fault, display)
    | (.ok _, display) => display.drawAll later

def welcome (settings : Settings) : List Command :=
  [.cacheImage settings.startupImage, .setOrientation settings.rotation, .refresh]

def startWithin (display : Display σ) (attempts : Nat) :
    Option (Except Fault Unit) × Display σ :=
  match display.link.handshakeWithin attempts with
  | (.error fault, link) => (some (.error fault), { display with link })
  | (.ok false, link) => (none, { display with link })
  | (.ok true, link) =>
    let (result, display) := { display with link }.drawAll (welcome display.settings)
    (some result, display)

def startOrFail (display : Display σ) (attempts : UInt32) : Except Fault Unit × Display σ :=
  match display.startWithin attempts.toNat with
  | (some result, display) => (result, display)
  | (none, display) => (.error (.handshakeFailed attempts.toNat), display)

-- Unbounded start, followed for some number of attempts. What it has come to
-- after some of them it has come to after more; none means that it is still trying.
def start? (display : Display σ) (patience : Nat) : Option (Except Fault Unit × Display σ) :=
  match display.startWithin patience with
  | (some result, display) => some (result, display)
  | (none, _) => none

end Display

end SerialPanel
