namespace SerialPanel

-- A length of time in whole seconds and nanoseconds. Seconds are 64-bit: a sum
-- or product past that has no value.
structure Span where
  seconds : Nat
  nanos : Nat
  seconds_lt : seconds < 0x10000000000000000
  nanos_lt : nanos < 1000000000
  deriving DecidableEq

namespace Span

def ofMillis (millis : UInt64) : Span where
  seconds := millis.toNat / 1000
  nanos := millis.toNat % 1000 * 1000000
  seconds_lt := by have := millis.toNat_lt; omega
  nanos_lt := by omega

def toMillis (span : Span) : Nat := span.seconds * 1000 + span.nanos / 1000000

def carried? (seconds nanos : Nat) : Option Span :=
  if fits : seconds + nanos / 1000000000 < 0x10000000000000000 then
    some ⟨seconds + nanos / 1000000000, nanos % 1000000000, fits, Nat.mod_lt _ (by decide)⟩
  else none

def add? (left right : Span) : Option Span :=
  carried? (left.seconds + right.seconds) (left.nanos + right.nanos)

def times? (span : Span) (count : Nat) : Option Span :=
  carried? (span.seconds * count) (span.nanos * count)

end Span

end SerialPanel
