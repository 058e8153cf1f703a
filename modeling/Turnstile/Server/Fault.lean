import Turnstile.Reply

/-!
# Faults of a server connection

A fault is a failure of the connection, a failure of the client with a kind and a
description, or an error that the server signalled by a line of text. Each has a text
(`ServerFault.text`), and each becomes an error of the store: failures of the connection are
told apart from all others (`ServerFault.storeError`).
-/

namespace Turnstile

/-- An error that a server signals: a code and perhaps some detail. -/
structure ServerError where
  code : String
  detail : Option String := none
deriving DecidableEq, Repr

namespace ServerError

/-- The error in a line: its first word is the code, and what follows the first space is the
detail. -/
def ofLine (line : String) : ServerError :=
  let cs := line.toList
  let code := String.ofList (cs.takeWhile (· != ' '))
  match cs.dropWhile (· != ' ') with
  | [] => { code }
  | _ :: detail => { code, detail := some (String.ofList detail) }

/-- The code, and the detail if there is any. -/
def text (e : ServerError) : String :=
  match e.detail with
  | none => e.code
  | some detail => e.code ++ ": " ++ detail

/-- The kinds of the codes that clients know. -/
def kinds : List (String × String) :=
  [("ERR", "ResponseError"), ("EXECABORT", "ExecAbortError"), ("LOADING", "BusyLoadingError"),
    ("NOSCRIPT", "NoScriptError"), ("MOVED", "Moved"), ("ASK", "Ask"),
    ("TRYAGAIN", "TryAgain"), ("CLUSTERDOWN", "ClusterDown"), ("CROSSSLOT", "CrossSlot"),
    ("MASTERDOWN", "MasterDown"), ("READONLY", "ReadOnly"), ("NOTBUSY", "NotBusy"),
    ("NOSUB", "NoSub")]

/-- Whether the server does not know the script it was to run. -/
def isUnknownScript (e : ServerError) : Bool := e.code == "NOSCRIPT"

end ServerError

/-- What can go wrong with a server. -/
inductive ServerFault where
  /-- The connection failed. -/
  | connection (reason : String)
  /-- The client failed. The kind is given by its name. -/
  | client (kind description : String) (detail : Option String)
  /-- The server signalled an error. -/
  | signalled (error : ServerError)
deriving DecidableEq, Repr

namespace ServerFault

/-- A description with the kind of fault it describes and perhaps some detail. -/
def described (kind description : String) : Option String → String
  | none => description ++ "- " ++ kind
  | some detail => description ++ " - " ++ kind ++ ": " ++ detail

/-- The text of a fault. -/
def text : ServerFault → String
  | connection reason => reason
  | client kind description detail => described kind description detail
  | signalled e =>
    match ServerError.kinds.lookup e.code with
    | some kind => described kind "An error was signalled by the server" e.detail
    | none => e.code ++ ": " ++ e.detail.getD "Unknown extension error encountered"

/-- Whether a fault is one of the connection. A client may name such a fault by its kind. -/
def isConnection : ServerFault → Bool
  | connection _ => true
  | client kind _ _ => kind == "IoError"
  | signalled _ => false

/-- A fault as an error of the store, in the run of a named script. -/
def storeError (script : String) (f : ServerFault) : StoreError :=
  if f.isConnection then .connection f.text else .backend script f.text

/-- The script that faults outside of any script are put down to. -/
def noScript : String := "redis"

end ServerFault

end Turnstile
