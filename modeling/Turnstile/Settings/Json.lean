import Turnstile.Json.Record
import Turnstile.Json.Writer
import Turnstile.Settings.Basic

/-!
# Settings as JSON

`Settings.ofJson` reads settings from a text. Whatever the text leaves out has its default,
at every level on its own, and settings that are invalid are refused. Lengths of time are
written as whole milliseconds. `Settings.toJson` writes every field in its order.
-/

namespace Turnstile

open Json

/-! ## Reading -/

/-- A length of time as a number of milliseconds that fits 64 bits. -/
def readMillis : Reader Nat := fun cs => do
  let (n, rest) ← readNat maxWord cs
  return (Time.ofMillis n, rest)

namespace LockSettings

/-- The settings of locks that a text has given so far. -/
structure Draft where
  space : Option String := none
  lease : Option Nat := none
  poll : Option Nat := none
  wait : Option Nat := none
deriving DecidableEq, Repr

/-- The fields of settings of locks. -/
def fields : List (RecordField Draft) :=
  [.ofReader "namespace" readString Draft.space fun d a => { d with space := some a },
    .ofReader "lease_ms" readMillis Draft.lease fun d a => { d with lease := some a },
    .ofReader "poll_interval_ms" readMillis Draft.poll fun d a => { d with poll := some a },
    .ofReader "wait_timeout_ms" readMillis Draft.wait fun d a => { d with wait := some a }]

/-- The settings of a draft, with defaults for what it lacks. -/
def Draft.settings (d : Draft) : LockSettings :=
  let default : LockSettings := {}
  { space := d.space.getD default.space
    lease := d.lease.getD default.lease
    poll := d.poll.getD default.poll
    wait := d.wait.getD default.wait }

/-- Reads settings of locks. -/
def read : Reader LockSettings := readRecord fields {} fun d => .ok d.settings

end LockSettings

namespace QueueSettings

/-- The settings of queues that a text has given so far. -/
structure Draft where
  space : Option String := none
  delayedSpace : Option String := none
deriving DecidableEq, Repr

/-- The fields of settings of queues. -/
def fields : List (RecordField Draft) :=
  [.ofReader "namespace" readString Draft.space fun d a => { d with space := some a },
    .ofReader "delayed_namespace" readString Draft.delayedSpace
      fun d a => { d with delayedSpace := some a }]

/-- The settings of a draft, with defaults for what it lacks. -/
def Draft.settings (d : Draft) : QueueSettings :=
  let default : QueueSettings := {}
  { space := d.space.getD default.space
    delayedSpace := d.delayedSpace.getD default.delayedSpace }

/-- Reads settings of queues. -/
def read : Reader QueueSettings := readRecord fields {} fun d => .ok d.settings

end QueueSettings

namespace Settings

/-- The settings that a text has given so far. -/
structure Draft where
  url : Option String := none
  lock : Option LockSettings := none
  queue : Option QueueSettings := none
deriving DecidableEq, Repr

/-- The fields of settings. -/
def fields : List (RecordField Draft) :=
  [.ofReader "redis_url" readString Draft.url fun d a => { d with url := some a },
    .ofReader "lock" LockSettings.read Draft.lock fun d a => { d with lock := some a },
    .ofReader "queue" QueueSettings.read Draft.queue fun d a => { d with queue := some a }]

/-- The settings of a draft, with defaults for what it lacks. -/
def Draft.settings (d : Draft) : Settings :=
  let default : Settings := {}
  { url := d.url.getD default.url
    lock := d.lock.getD default.lock
    queue := d.queue.getD default.queue }

/-- Reads settings. -/
def read : Reader Settings := readRecord fields {} fun d => .ok d.settings

end Settings

/-! ## Settings from outside -/

/-- Why a file gave no text. -/
inductive FileFault where
  | missing
  | isDirectory
  | notText
deriving DecidableEq, Repr

/-- The text that reports an unreadable file. -/
def FileFault.message : FileFault → String
  | missing => "No such file or directory (os error 2)"
  | isDirectory => "Is a directory (os error 21)"
  | notText => "stream did not contain valid UTF-8"

/-- Why there are no settings. -/
inductive SettingsError where
  | unreadable (path : String) (fault : FileFault)
  | notSettings (fault : Fault)
  | invalid (setting : InvalidSetting)
deriving DecidableEq, Repr

/-- The text that reports an unreadable file or invalid settings. What is wrong with a JSON
text is told by its sort alone. -/
def SettingsError.message? : SettingsError → Option String
  | unreadable path fault => some ("could not read config " ++ path ++ ": " ++ fault.message)
  | notSettings _ => none
  | invalid setting => some setting.message

/-- Settings that are valid, or what is wrong with them. -/
def Settings.checked (s : Settings) : Except SettingsError Settings :=
  match s.invalid? with
  | some setting => .error (.invalid setting)
  | none => .ok s

/-- The settings of a text. -/
def Settings.ofJson (text : String) : Except SettingsError Settings :=
  match parse Settings.read text with
  | .error fault => .error (.notSettings fault)
  | .ok s => s.checked

/-- The settings of the file at a path, given what reading its bytes came to. -/
def Settings.ofFile (path : String) (contents : Except FileFault ByteArray) :
    Except SettingsError Settings :=
  match contents with
  | .error fault => .error (.unreadable path fault)
  | .ok bytes =>
    match String.fromUTF8? bytes with
    | none => .error (.unreadable path .notText)
    | some text => Settings.ofJson text

/-! ## Writing -/

/-- A length of time as whole milliseconds, at most the greatest number of 64 bits. -/
def writeMillis (d : Nat) : List Char := writeNat (min (Time.millis d) maxWord)

/-- Settings of locks as an object. -/
def LockSettings.write (s : LockSettings) : List Char :=
  writeObject
    [("namespace", writeText s.space), ("lease_ms", writeMillis s.lease),
      ("poll_interval_ms", writeMillis s.poll), ("wait_timeout_ms", writeMillis s.wait)]

/-- Settings of queues as an object. -/
def QueueSettings.write (s : QueueSettings) : List Char :=
  writeObject
    [("namespace", writeText s.space), ("delayed_namespace", writeText s.delayedSpace)]

/-- Settings as an object. -/
def Settings.write (s : Settings) : List Char :=
  writeObject
    [("redis_url", writeText s.url), ("lock", s.lock.write), ("queue", s.queue.write)]

/-- The text of settings. -/
def Settings.toJson (s : Settings) : String := String.ofList s.write

end Turnstile
