/-!
# The address of this host

A process that is not told its host's name goes by the address of the first interface that
is not a loopback and has an address of version 4, and by `127.0.0.1` if there is none.
-/

namespace Turnstile

/-- The address of a network interface. Of version 6, only this is kept. -/
inductive Address where
  | v4 (a b c d : UInt8)
  | v6
deriving DecidableEq, Repr

namespace Address

/-- Whether an address is one of version 4 that leads out of the host. -/
def isOutward : Address → Bool
  | v4 a _ _ _ => a != 127
  | v6 => false

/-- The text of an address of version 4. -/
def text? : Address → Option String
  | v4 a b c d =>
    some (".".intercalate ([a, b, c, d].map fun part => toString part.toNat))
  | v6 => none

end Address

/-- What this host goes by, given the addresses of its interfaces in order, or nothing
where they cannot be listed. -/
def localAddress (interfaces : Option (List Address)) : String :=
  match (interfaces.getD []).find? Address.isOutward with
  | some address => address.text?.getD "127.0.0.1"
  | none => "127.0.0.1"

end Turnstile
