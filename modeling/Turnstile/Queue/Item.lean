import Turnstile.Json.Record
import Turnstile.Json.Writer
import Turnstile.Queue.Basic
import Std.Data.TreeMap

/-!
# Typed items

Items travel as payloads in compact JSON. A codec writes the items of a type as payloads and
reads them back. An item is written before the queue's name is looked at, and a payload is
read after it was taken out of its collection.
-/

namespace Turnstile

open Json

/-- How the items of a type travel. -/
structure Codec (α : Type) where
  write : α → Except Fault String
  read : String → Except Fault α

namespace Codec

/-- The codec of a type all of whose items can be written. -/
def ofJson {α : Type} (write : α → List Char) (read : Reader α) : Codec α where
  write a := .ok (String.ofList (write a))
  read := parse read

end Codec

/-! ## Items with fields -/

/-- A text for a user. -/
structure Reminder where
  user : UInt32
  text : String
deriving DecidableEq, Repr

namespace Reminder

/-- What a payload has given of a reminder so far. -/
structure Draft where
  user : Option UInt32 := none
  text : Option String := none

/-- The fields of a reminder. -/
def fields : List (RecordField Draft) :=
  [.ofReader "user" (fun cs => do
      let (n, rest) ← readNat 4294967295 cs
      return (UInt32.ofNat n, rest)) Draft.user fun d a => { d with user := some a },
    .ofReader "text" readString Draft.text fun d a => { d with text := some a }]

/-- The reminder of a draft that has both fields. -/
def Draft.reminder (d : Draft) : Except Fault Reminder := do
  return { user := ← required d.user, text := ← required d.text }

/-- A reminder as an object. -/
def write (r : Reminder) : List Char :=
  writeObject [("user", writeNat r.user.toNat), ("text", writeText r.text)]

/-- How reminders travel. -/
def codec : Codec Reminder := .ofJson write (readRecord fields {} Draft.reminder)

end Reminder

/-- A report that somebody asked for. -/
structure Report where
  report : String
  requestedBy : String
deriving DecidableEq, Repr

namespace Report

/-- What a payload has given of a report so far. -/
structure Draft where
  report : Option String := none
  requestedBy : Option String := none

/-- The fields of a report. -/
def fields : List (RecordField Draft) :=
  [.ofReader "report" readString Draft.report fun d a => { d with report := some a },
    .ofReader "requested_by" readString Draft.requestedBy
      fun d a => { d with requestedBy := some a }]

/-- The report of a draft that has both fields. -/
def Draft.finished (d : Draft) : Except Fault Report := do
  return { report := ← required d.report, requestedBy := ← required d.requestedBy }

/-- A report as an object. -/
def write (r : Report) : List Char :=
  writeObject [("report", writeText r.report), ("requested_by", writeText r.requestedBy)]

/-- How reports travel. -/
def codec : Codec Report := .ofJson write (readRecord fields {} Draft.finished)

end Report

/-! ## Plain items -/

namespace Codec

/-- Texts. -/
def text : Codec String := .ofJson writeText readString

/-- The bounds of an integer of 64 bits. -/
def readInt64 : Reader Int := readInt (-9223372036854775808) 9223372036854775807

/-- Integers of 64 bits. -/
def int64 : Codec Int := .ofJson writeInt readInt64

/-- Numbers of one byte. -/
def byte : Codec Nat := .ofJson writeNat (readNat 255)

/-- Booleans. -/
def bool : Codec Bool := .ofJson writeBool readBool

/-- Integers of 64 bits, or none. -/
def optionalInt : Codec (Option Int) := .ofJson (writeOption writeInt) (readOption readInt64)

/-- Lists of integers of 64 bits. -/
def ints : Codec (List Int) :=
  .ofJson (fun ns => writeList (ns.map writeInt)) (readList readInt64)

/-- A table of integers of 64 bits. -/
abbrev Table := Std.TreeMap String Int

/-- Tables, written in the order of their keys. Of two members with one name the last
counts. -/
def table : Codec Table :=
  .ofJson (fun t => writeObject (t.toList.map fun entry => (entry.1, writeInt entry.2)))
    fun cs => do
      let (entries, rest) ← readEntries readInt64 cs
      return (entries.foldl (fun t entry => t.insert entry.1 entry.2) ∅, rest)

/-- Tables whose keys are lists. JSON has no such keys, so they can only be read, as what
they are not. -/
def listKeyed : Codec Unit where
  write _ := .error .malformed
  read _ := .error .mismatched

end Codec

/-! ## Queues of items -/

/-- The item in a payload, if there is a payload. -/
def Codec.ofPayload {α : Type} (c : Codec α) :
    Option String → Except Queue.Error (Option α)
  | none => .ok none
  | some payload => ((c.read payload).map some).mapError .payload

namespace Queue

variable {α : Type}

/-- The payload of an item. -/
def payloadOfItem (c : Codec α) (item : α) : Except Error String :=
  (c.write item).mapError .payload

/-- Appends an item. -/
def enqueueItem (q : Queue) (c : Codec α) (name : String) (item : α) : Operation Unit :=
  (payloadOfItem c item).bind (q.enqueue name)

/-- Takes the oldest item. A payload that cannot be read is gone all the same. -/
def dequeueItem (q : Queue) (c : Codec α) (name : String) : Operation (Option α) :=
  (q.dequeue name).map fun payload => payload.andThen c.ofPayload

/-- Gives an item its due date, and tells whether it was not waiting before. -/
def enqueueItemDelayed (q : Queue) (c : Codec α) (name : String) (item : α)
    (readyAt : UInt64) : Operation Bool :=
  (payloadOfItem c item).bind fun payload => q.enqueueDelayed name payload readyAt

/-- Takes the item with the least due date, if that has come. A payload that cannot be read
is gone all the same. -/
def dequeueItemDelayed (q : Queue) (now : UInt64) (c : Codec α) (name : String) :
    Operation (Option α) :=
  (q.dequeueDelayed now name).map fun payload => payload.andThen c.ofPayload

end Queue

end Turnstile
