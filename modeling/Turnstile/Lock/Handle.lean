import Turnstile.Identity.Host
import Turnstile.Identity.Token
import Turnstile.Log
import Turnstile.Reply
import Turnstile.Settings.Basic
import Turnstile.Text.Quoted

/-!
# Handles on locks

A handle is one client's access to the lock of a name. It is made from settings that are
valid and has a token of its own, and it keeps two flags about what it holds (`Hold`). A
handle holds its lock fresh if its own token is in the key, and reentrant if it relies on
the token of another handle of the same thread.
-/

namespace Turnstile.Lock

/-- Why a lock operation has no result. -/
inductive Error where
  | invalidName (name : String)
  | invalidSettings (setting : InvalidSetting)
  | store (error : StoreError)
  | timeout (key : String) (waited : Nat)
  | interrupted (key : String)
deriving DecidableEq, Repr

/-- The text that reports an error. -/
def Error.message : Error → String
  | invalidName name => "invalid lock name " ++ Text.quoted name
  | invalidSettings setting => "invalid lock configuration: " ++ setting.message
  | store error => error.message
  | timeout key waited => "timed out after " ++ Time.text waited ++ " waiting for lock " ++ key
  | interrupted key => "interrupted while waiting for lock " ++ key

/-- A client's access to a lock. Lengths of time are in nanoseconds. -/
structure Handle where
  name : String
  /-- The key of the lock in the store. -/
  key : String
  /-- What the handle writes into the key. -/
  token : Token
  /-- How long the lock is held unless it is renewed. -/
  lease : Nat
  /-- How long to wait between two attempts. -/
  poll : Nat
  /-- How long to wait for the lock in all. -/
  wait : Nat
  poll_pos : 0 < poll
deriving DecidableEq, Repr

/-- What a handle believes it holds. -/
structure Hold where
  /-- Whether the handle holds the lock. -/
  held : Bool := false
  /-- Whether the hold, while there is one, is reentrant. -/
  nested : Bool := false
deriving DecidableEq, Repr

namespace Hold

/-- No hold. -/
def none : Hold := {}

/-- A hold through the handle's own token. -/
def fresh : Hold := { held := true }

/-- A hold through the token of another handle of the thread. -/
def reentrant : Hold := { held := true, nested := true }

/-- Whether the lock is held fresh. -/
def isFresh (h : Hold) : Bool := h.held && !h.nested

/-- Whether the lock is held reentrant. -/
def isReentrant (h : Hold) : Bool := h.held && h.nested

end Hold

namespace Handle

/-- The lease as the store takes it: whole milliseconds, at least one. -/
def leaseMillis (h : Handle) : Nat := max (Time.millis h.lease) 1

/-- The lease as an argument. -/
def leaseArg (h : Handle) : String := Text.Decimal.ofNat h.leaseMillis

/-- The handle of a name, made from settings and a token. The name is looked at first. -/
def make (name : String) (s : LockSettings) (token : Token) : Except Error Handle :=
  if Text.isBlank name then .error (.invalidName name)
  else
    match h : s.invalid? with
    | some setting => .error (.invalidSettings setting)
    | .none =>
      .ok
        { name
          key := keyIn s.space name
          token
          lease := s.lease
          poll := s.poll
          wait := s.wait
          poll_pos := LockSettings.poll_pos h }

end Handle

/-! ## Managers -/

/-- A source of handles with common settings and tokens of one process. -/
structure Manager where
  settings : LockSettings := {}
  source : TokenSource
deriving DecidableEq, Repr

namespace Manager

/-- The key of a name. -/
def key (m : Manager) (name : String) : String := keyIn m.settings.space name

/-- A handle for a thread, with the settings of the manager unless others are given, and the
serial numbers that are left. A name or settings that are refused use up no number. -/
def handle (m : Manager) (thread : Nat) (serials : SerialCounter) (name : String)
    (settings : Option LockSettings) : Except Error Handle × SerialCounter :=
  let (serial, rest) := serials.next
  match Handle.make name (settings.getD m.settings) (m.source.token thread serial) with
  | .error e => (.error e, serials)
  | .ok h => (.ok h, rest)

end Manager

end Turnstile.Lock
