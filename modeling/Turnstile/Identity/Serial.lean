/-!
# Serial numbers

A counter deals out numbers of 64 bits from one up to a limit and then starts again at one.
A limit of zero counts as one.
-/

namespace Turnstile

/-- A counter with the number it dealt out last. -/
structure SerialCounter where
  current : UInt64 := 0
  limit : UInt64
deriving DecidableEq, Repr

namespace SerialCounter

/-- The greatest number that tokens use. -/
def tokenLimit : UInt64 := 999999

/-- A counter that deals out numbers up to a limit. -/
def upTo (limit : UInt64) : SerialCounter := { limit }

/-- The number after `previous` on a counter with a limit. -/
def after (limit previous : UInt64) : UInt64 :=
  let greatest := max limit 1
  if greatest ≤ previous then 1 else previous + 1

/-- The next number, and the counter after it was dealt out. -/
def next (c : SerialCounter) : UInt64 × SerialCounter :=
  let n := after c.limit c.current
  (n, { c with current := n })

/-- The next `count` numbers, and the counter after them. -/
def take : Nat → SerialCounter → List UInt64 × SerialCounter
  | 0, c => ([], c)
  | count + 1, c =>
    let (n, c) := c.next
    let (ns, c) := take count c
    (n :: ns, c)

/-- The counter after `count` numbers were dealt out. -/
def drop : Nat → SerialCounter → SerialCounter
  | 0, c => c
  | count + 1, c => drop count c.next.2

end SerialCounter

end Turnstile
