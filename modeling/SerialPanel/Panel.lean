import SerialPanel.Line
import SerialPanel.Protocol
namespace SerialPanel

-- A panel held in memory that keeps what was written to it and answers
-- handshakes from a script. A write that is refused leaves no trace but its number.
structure Panel where
  log : List Bytes := []
  replies : List Bytes := []
  acknowledges : Bool := false
  tried : Nat := 0
  refuses : Nat → Bool := fun _ => false

namespace Panel

def writes (panel : Panel) : List Bytes := panel.log.reverse

def wire (panel : Panel) : Bytes := panel.writes.flatten

def disconnected : LineFault := ⟨.brokenPipe, "panel disconnected"⟩

def isHandshake (bytes : Bytes) : Bool :=
  bytes == [Opcode.handshake] || bytes == [frameHead, Opcode.handshake]

def reply (panel : Panel) : Bytes × Panel :=
  match panel.replies with
  | reply :: later => (reply, { panel with replies := later })
  | [] => (if panel.acknowledges then acknowledgement else [], panel)

def receive (panel : Panel) (bytes : Bytes) : Written Panel :=
  let number := panel.tried
  let panel := { panel with tried := number + 1 }
  if panel.refuses number then ⟨.error disconnected, [], panel⟩
  else
    let panel := { panel with log := bytes :: panel.log }
    if isHandshake bytes then
      let (reply, panel) := panel.reply
      ⟨.ok (), reply, panel⟩
    else ⟨.ok (), [], panel⟩

instance : Line Panel where
  write := receive
  wait panel _ := ([], panel)

-- Contents of the frames in a sequence of writes: everything between two tails
-- belongs to one frame, and what no tail follows yet to none.
def framesFrom (content : Bytes) : List Bytes → List Bytes
  | [] => []
  | write :: later =>
    if write = frameTail then content :: framesFrom [] later
    else framesFrom (content ++ write) later

def frames (panel : Panel) : List Bytes := framesFrom [] panel.writes

def clear (panel : Panel) : Panel := { panel with log := [] }

end Panel

end SerialPanel
