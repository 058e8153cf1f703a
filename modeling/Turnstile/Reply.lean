import Turnstile.Script
import Turnstile.Text.Decimal
import Turnstile.Text.Quoted

/-!
# Requests and what the store answers

A request is a script with its keys and arguments. A reply is nothing, an integer or a
text; a store that cannot reply answers with an error, which names its cause and has its
wording in one place, `StoreError.message`.
-/

namespace Turnstile

/-- A script together with the keys and arguments it runs on. -/
structure Request where
  script : Script
  keys : List String
  args : List String
deriving DecidableEq, Repr

/-- The request of a command. -/
def Command.request (c : Command) (keys args : List String) : Request := ⟨c.script, keys, args⟩

/-- What a script returns. -/
inductive Reply where
  | nil
  | int (value : Int)
  | text (value : String)
deriving DecidableEq, Repr

/-- Why the store did not reply, or not as it should. -/
inductive StoreError where
  /-- The store could not be reached. -/
  | connection (reason : String)
  /-- The store refused or failed to run the script. -/
  | backend (script reason : String)
  /-- The key holds a value of another kind than the script works on. -/
  | wrongType (key : String)
  /-- The reply is not of the kind the script promises. -/
  | unexpectedReply (script reply : String)
  /-- An argument of the script is missing or malformed. -/
  | invalidArgument (script reason : String)
  /-- An earlier failure left the store's state unusable. -/
  | poisoned (activity : String)
deriving DecidableEq, Repr

/-- The text that reports an error. -/
def StoreError.message : StoreError → String
  | connection reason => "store connection failed: " ++ reason
  | backend script reason => "script " ++ script ++ " failed: " ++ reason
  | wrongType key => "key " ++ key ++ " holds the wrong kind of value"
  | unexpectedReply script reply =>
    "script " ++ script ++ " returned an unexpected reply: " ++ reply
  | invalidArgument script reason =>
    "script " ++ script ++ " called with invalid arguments: " ++ reason
  | poisoned activity => "store state poisoned during " ++ activity

/-- What comes back for a request. -/
abbrev Answer := Except StoreError Reply

namespace Reply

/-- The reply of a script that answers yes or no. -/
def ofBool (b : Bool) : Reply := int (if b then 1 else 0)

/-- The text in a reply, or nil where there is none. -/
def ofText? : Option String → Reply
  | some t => text t
  | none => nil

/-- Whether a reply says yes: only a positive integer does. -/
def isYes : Reply → Bool
  | int n => 0 < n
  | _ => false

/-- The text of a reply that is one. -/
def text? : Reply → Option String
  | text t => some t
  | _ => none

/-- How messages show a reply. -/
def shown : Reply → String
  | nil => "nil"
  | int n => Text.Decimal.ofInt n
  | text t => Text.quoted t

/-- The integer that the named script should have returned. -/
def asInt (script : String) : Reply → Except StoreError Int
  | int n => .ok n
  | reply => .error (.unexpectedReply script reply.shown)

/-- The text or nil that the named script should have returned. -/
def asText? (script : String) : Reply → Except StoreError (Option String)
  | nil => .ok none
  | text t => .ok (some t)
  | reply => .error (.unexpectedReply script reply.shown)

@[simp] theorem isYes_ofBool (b : Bool) : (ofBool b).isYes = b := by cases b <;> rfl

end Reply

end Turnstile
