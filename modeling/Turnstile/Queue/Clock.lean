import Turnstile.Time

/-!
# Clocks

Due dates are whole seconds since the epoch, in a word of 64 bits. A queue reads them off
the wall clock or off a manual clock, which stands still unless it is moved.
-/

namespace Turnstile.Queue

/-- The reading of a wall clock that is `nanos` past the epoch: whole seconds, and zero
before the epoch. -/
def wallSeconds (nanos : Int) : UInt64 := UInt64.ofNat (Time.seconds nanos.toNat)

/-- A clock that is moved by hand. -/
structure ManualClock where
  now : UInt64 := 0
deriving DecidableEq, Repr

namespace ManualClock

/-- Moves a clock to a date. -/
def set (_ : ManualClock) (now : UInt64) : ManualClock := { now }

/-- Moves a clock on by the whole seconds of a length of time. It wraps around. -/
def advance (c : ManualClock) (span : Nat) : ManualClock :=
  { now := c.now + UInt64.ofNat (Time.seconds span) }

end ManualClock

/-- The date that is a length of time after another, in whole seconds rounded up, or the
greatest date there is. -/
def dateAfter (now : UInt64) (delay : Nat) : UInt64 :=
  UInt64.ofNat (min (now.toNat + Time.secondsUp delay) 18446744073709551615)

end Turnstile.Queue
