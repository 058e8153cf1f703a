/-!
# Lengths and points of time

Time is counted in whole nanoseconds: a length of time is a natural number of them, and a
point of time is the number of them since the origin of a monotonic clock. Leases travel to
the store in whole milliseconds and due dates in whole seconds; the conversions to both
units are here, and so is the text of a length of time in its largest fitting unit.
-/

namespace Turnstile.Time

/-- Nanoseconds in a second. -/
abbrev second : Nat := 1000000000

/-- Nanoseconds in a millisecond. -/
abbrev millisecond : Nat := 1000000

/-- Nanoseconds in a microsecond. -/
abbrev microsecond : Nat := 1000

/-- A length of time given as seconds and nanoseconds. -/
def ofParts (seconds nanos : Nat) : Nat := seconds * second + nanos

/-- A length of time given in milliseconds. -/
def ofMillis (count : Nat) : Nat := count * millisecond

/-- The whole milliseconds in a length of time. -/
def millis (d : Nat) : Nat := d / millisecond

/-- The whole seconds in a length of time. -/
def seconds (d : Nat) : Nat := d / second

/-- The least number of whole seconds that is not shorter than a length of time. -/
def secondsUp (d : Nat) : Nat := d / second + if d % second = 0 then 0 else 1

theorem millis_ofMillis (n : Nat) : millis (ofMillis n) = n :=
  Nat.mul_div_cancel n (by decide)

theorem le_secondsUp (d : Nat) : d ≤ secondsUp d * second := by
  simp only [secondsUp, second]
  split <;> omega

/-! ## The text of a length of time -/

/-- The decimals of `n` parts of which `10 ^ width` make a unit, without the zeros at their
end. -/
def decimals (width n : Nat) : List Char :=
  let digits := Nat.toDigits 10 n
  let padded := List.replicate (width - digits.length) '0' ++ digits
  (padded.reverse.dropWhile (· == '0')).reverse

/-- `whole` units and `rest` parts of which `10 ^ width` make a unit. -/
def inUnit (unit : String) (width whole rest : Nat) : String :=
  let tail := if rest = 0 then [] else '.' :: decimals width rest
  String.ofList (Nat.toDigits 10 whole ++ tail) ++ unit

/-- The length of time in the largest unit of which it holds at least one, with as many
decimals as it needs. -/
def text (d : Nat) : String :=
  if second ≤ d then inUnit "s" 9 (d / second) (d % second)
  else if millisecond ≤ d then inUnit "ms" 6 (d / millisecond) (d % millisecond)
  else if microsecond ≤ d then inUnit "µs" 3 (d / microsecond) (d % microsecond)
  else inUnit "ns" 0 d 0

end Turnstile.Time
