import SerialPanel.Command
import SerialPanel.Span
namespace SerialPanel

-- Timing and framing of the serial link. Times are milliseconds.
structure LinkSettings where
  handshakeSettle : UInt64 := 100
  pollInterval : UInt64 := 20
  maxPolls : UInt32 := 26
  maxResyncs : UInt32 := 26
  frameDelay : UInt64 := 1
  head : Option UInt8 := none
  deriving DecidableEq, Repr

namespace LinkSettings

def standard : LinkSettings := {}

def immediate : LinkSettings := { handshakeSettle := 0, pollInterval := 0, frameDelay := 0 }

def headed (settings : LinkSettings) (content : Bytes) : Bytes :=
  settings.head.toList ++ content

-- How long one handshake attempt blocks at most while no garbage arrives. Terms
-- are added left to right; where one of them leaves the range there is no answer.
def budget? (settings : LinkSettings) : Option Span := do
  let polling ← (Span.ofMillis settings.pollInterval).times? settings.maxPolls.toNat
  let waiting ← (Span.ofMillis settings.handshakeSettle).add? polling
  waiting.add? (Span.ofMillis settings.frameDelay)

end LinkSettings

structure Settings where
  screen : Screen := ⟨272, 480⟩
  rotation : Rotation := default
  startupImage : UInt8 := 0
  link : LinkSettings := {}
  deriving DecidableEq, Repr

namespace Settings

def standard : Settings := {}

def check (settings : Settings) : Except Fault Unit :=
  if settings.screen.width = 0 ∨ settings.screen.height = 0 then
    .error (.settings "screen size"
      (toString settings.screen.width.toNat ++ "x" ++ toString settings.screen.height.toNat ++
        " has no pixels"))
  else if settings.link.maxPolls = 0 then
    .error (.settings "link" "handshake_max_polls must be at least 1")
  else .ok ()

def Usable (settings : Settings) : Prop :=
  settings.screen.width ≠ 0 ∧ settings.screen.height ≠ 0 ∧ settings.link.maxPolls ≠ 0

instance : DecidablePred Usable := fun settings => by unfold Usable; infer_instance

theorem check_exact (settings : Settings) : settings.check = .ok () ↔ settings.Usable := by
  unfold check Usable
  split
  · rename_i empty
    rcases empty with empty | empty <;> simp [empty]
  · split <;> simp_all

end Settings

end SerialPanel
