import SerialPanel.Bytes
namespace SerialPanel

inductive FieldWidth where
  | byte | word | long | double
  deriving DecidableEq, Repr

namespace FieldWidth

def size : FieldWidth → Nat
  | .byte => 1
  | .word => 2
  | .long => 4
  | .double => 8

def max : FieldWidth → Nat
  | .byte => 0xFF
  | .word => 0xFFFF
  | .long => 0xFFFFFFFF
  | .double => 0xFFFFFFFFFFFFFFFF

def half : FieldWidth → Nat
  | .byte => 0x80
  | .word => 0x8000
  | .long => 0x80000000
  | .double => 0x8000000000000000

def name : FieldWidth → String
  | .byte => "byte"
  | .word => "word"
  | .long => "long"
  | .double => "double"

theorem max_succ (width : FieldWidth) : width.max + 1 = Nat.pow 256 width.size := by
  cases width <;> rfl

end FieldWidth

-- Why a channel call failed. Only the kinds that this library tells apart have
-- a constructor of their own; any other kind keeps its label.
inductive LineFault.Kind where
  | timedOut | wouldBlock | interrupted | brokenPipe | writeZero
  | other (label : String)
  deriving DecidableEq, Repr

def LineFault.Kind.name : LineFault.Kind → String
  | .timedOut => "TimedOut"
  | .wouldBlock => "WouldBlock"
  | .interrupted => "Interrupted"
  | .brokenPipe => "BrokenPipe"
  | .writeZero => "WriteZero"
  | .other label => label

def LineFault.Kind.ofName : String → LineFault.Kind
  | "TimedOut" => .timedOut
  | "WouldBlock" => .wouldBlock
  | "Interrupted" => .interrupted
  | "BrokenPipe" => .brokenPipe
  | "WriteZero" => .writeZero
  | label => .other label

structure LineFault where
  kind : LineFault.Kind
  reason : String
  deriving DecidableEq, Repr

inductive Fault where
  | fieldOverflow (width : FieldWidth) (value : Int)
  | invalidParameter (parameter : String) (value : Int)
  | transport (operation : String) (source : LineFault)
  | handshakeFailed (attempts : Nat)
  | settings (context details : String)
  deriving DecidableEq, Repr

namespace Fault

def ofLine (source : LineFault) : Fault := .transport "write" source

def message : Fault → String
  | .fieldOverflow width value =>
    "Value " ++ toString value ++ " does not fit in a " ++ width.name ++ " field (" ++
      toString width.size ++ " bytes)"
  | .invalidParameter parameter value => "Invalid " ++ parameter ++ ": " ++ toString value
  | .transport operation _ => "Transport " ++ operation ++ " failed"
  | .handshakeFailed attempts => "Handshake failed after " ++ toString attempts ++ " attempt(s)"
  | .settings context details => "Configuration error in " ++ context ++ ": " ++ details

def retryable : Fault → Bool
  | .handshakeFailed _ => true
  | _ => false

def suggestions : Fault → List String
  | .fieldOverflow .. =>
    ["Check coordinates stay on screen",
     "Scale fixed-point values to fit the field width",
     "Reduce the circle radius near screen edges"]
  | .invalidParameter .. =>
    ["Use one of the enumerated protocol values",
     "Check font size is between 0 and 9"]
  | .transport .. =>
    ["Check the serial cable and panel power",
     "Verify the serial device is still open",
     "Re-run the handshake after reconnecting"]
  | .handshakeFailed _ =>
    ["Wait for the panel to finish booting",
     "Check baud rate and wiring",
     "Increase the handshake attempt budget"]
  | .settings .. =>
    ["Check the YAML syntax of the display section",
     "Verify screen dimensions are non-zero"]

end Fault

end SerialPanel
