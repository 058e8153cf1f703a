import Turnstile.Identity.Serial

/-!
# Tokens

A handle on a lock proves its ownership by a token, the text `host:thread:serial`. The part
up to the second of those colons, `host:thread:`, stands for the owner, a thread of a
process on a host, and is what the tokens of all handles of one thread begin with.
-/

namespace Turnstile

/-- What a handle writes into the key of a lock it holds. -/
structure Token where
  host : String
  /-- The process and the thread in it. -/
  thread : String
  serial : UInt64
deriving DecidableEq, Repr

namespace Token

/-- The part of the text that all tokens of one thread share. -/
def owner (t : Token) : String := t.host ++ ":" ++ t.thread ++ ":"

/-- A token as it stands in the store. -/
def text (t : Token) : String := t.owner ++ toString t.serial.toNat

end Token

/-- Whether a text begins with another. -/
def startsWith (text start : String) : Bool := start.toList.isPrefixOf text.toList

/-- Whether a stored text is a token of the same owner. -/
def Token.sameOwner (t : Token) (stored : String) : Bool := startsWith stored t.owner

@[simp] theorem startsWith_append (start rest : String) : startsWith (start ++ rest) start := by
  simp [startsWith]

/-- A token is of its own owner. -/
theorem Token.sameOwner_text (t : Token) : t.sameOwner t.text := by
  simp [sameOwner, text]

/-- A source of tokens for one process on one host. -/
structure TokenSource where
  host : String
  process : Nat
deriving DecidableEq, Repr

/-- The token with a given serial number for a thread of the process. -/
def TokenSource.token (s : TokenSource) (thread : Nat) (serial : UInt64) : Token where
  host := s.host
  thread := toString s.process ++ "." ++ toString thread
  serial := serial

end Turnstile
