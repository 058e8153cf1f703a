import Turnstile.Exchange
import Turnstile.Json.Basic
import Turnstile.Log
import Turnstile.Queue.Clock
import Turnstile.Settings.Basic

/-!
# Queues

Behind each queue name stand two collections: a list, which gives its payloads back in the
order in which they came, and a sorted set, which gives each payload back once, from its
due date on. Every operation checks the name and is then one exchange with the store.
-/

namespace Turnstile

/-- Queues that share their settings, which are valid. -/
structure Queue where
  settings : QueueSettings
  valid : settings.invalid? = none

namespace Queue

/-- Why a queue operation has no result. -/
inductive Error where
  | invalidName (name : String)
  | invalidSettings (setting : InvalidSetting)
  | store (error : StoreError)
  /-- A payload does not stand for an item of the type, or an item has no payload. -/
  | payload (fault : Json.Fault)
deriving DecidableEq, Repr

/-- The text that reports an error. What is wrong with a payload is told by its sort
alone. -/
def Error.message? : Error → Option String
  | invalidName name => some ("invalid queue name " ++ Text.quoted name)
  | invalidSettings setting => some ("invalid queue configuration: " ++ setting.message)
  | store error => some error.message
  | payload _ => none

/-- What queues log. -/
inductive Event where
  | enqueued (key payload : String)
  | dequeued (key payload : String)
  | scheduled (key payload : String) (readyAt : UInt64) (isNew : Bool)
  | delayedDequeued (key payload : String)
  | removed (key payload : String) (wasThere : Bool)
  | destroyed (queue : String) (deleted : Int)
deriving DecidableEq, Repr

/-- The record of an event. -/
def Event.record : Event → LogRecord
  | enqueued key payload =>
    ⟨.debug, "item enqueued", [("key", .text key), ("payload", .text payload)]⟩
  | dequeued key payload =>
    ⟨.debug, "item dequeued", [("key", .text key), ("payload", .text payload)]⟩
  | scheduled key payload readyAt isNew =>
    ⟨.debug, "delayed item scheduled",
      [("key", .text key), ("payload", .text payload), ("ready_at", .number readyAt.toNat),
        ("inserted", .flag isNew)]⟩
  | delayedDequeued key payload =>
    ⟨.debug, "delayed item dequeued", [("key", .text key), ("payload", .text payload)]⟩
  | removed key payload wasThere =>
    ⟨.debug, "delayed item removed",
      [("key", .text key), ("payload", .text payload), ("removed", .flag wasThere)]⟩
  | destroyed queue deleted =>
    ⟨.debug, "queue destroyed", [("queue", .text queue), ("deleted", .number deleted)]⟩

/-- An operation of a queue: one exchange, unless it is refused at once. -/
abbrev Operation (α : Type) := Except Error (Exchange Event Error α)

/-- Queues with the given settings. -/
def make (settings : QueueSettings) : Except Error Queue :=
  match h : settings.invalid? with
  | some setting => .error (.invalidSettings setting)
  | none => .ok ⟨settings, h⟩

/-- The key in a key space of a name that is not blank. -/
def checkedKey (space name : String) : Except Error String :=
  if Text.isBlank name then .error (.invalidName name) else .ok (keyIn space name)

/-- The key of the list of a name. -/
def listKey (q : Queue) (name : String) : Except Error String :=
  checkedKey q.settings.space name

/-- The key of the sorted set of a name. -/
def delayedKey (q : Queue) (name : String) : Except Error String :=
  checkedKey q.settings.delayedSpace name

/-- The payload in a reply of the given command, and an event if there is one. -/
def payloadOf (c : Command) (request : Request) (event : String → Event) :
    Exchange Event Error (Option String) :=
  .ofReply request .store (Reply.asText? c.name) fun payload => payload.toList.map event

/-- The count in a reply of the given command. A negative one counts as zero. -/
def countOf (c : Command) (request : Request) : Exchange Event Error Nat :=
  .ofReply request .store (fun reply => (reply.asInt c.name).map Int.toNat) fun _ => []

/-! ## Lists -/

/-- Appends a payload. -/
def enqueue (q : Queue) (name payload : String) : Operation Unit :=
  (q.listKey name).map fun key =>
    Exchange.ofReply (Command.push.request [key] [payload]) .store (fun _ => .ok ())
      fun _ => [.enqueued key payload]

/-- Takes the oldest payload. -/
def dequeue (q : Queue) (name : String) : Operation (Option String) :=
  (q.listKey name).map fun key =>
    payloadOf .pop (Command.pop.request [key] []) (.dequeued key)

/-- How many payloads wait in order. -/
def len (q : Queue) (name : String) : Operation Nat :=
  (q.listKey name).map fun key => countOf .len (Command.len.request [key] [])

/-- Whether no payload waits in order. -/
def isEmpty (q : Queue) (name : String) : Operation Bool :=
  (q.len name).map fun count => count.andThen fun n => .ok (n == 0)

/-! ## Sorted sets -/

/-- Gives a payload its due date, and tells whether it was not waiting before. -/
def enqueueDelayed (q : Queue) (name payload : String) (readyAt : UInt64) : Operation Bool :=
  (q.delayedKey name).map fun key =>
    Exchange.ofReply
      (Command.delayedPush.request [key] [payload, Text.Decimal.ofNat readyAt.toNat]) .store
      (fun reply => .ok reply.isYes) fun isNew => [.scheduled key payload readyAt isNew]

/-- Makes a payload due when a length of time is over, in whole seconds rounded up. -/
def enqueueAfter (q : Queue) (now : UInt64) (name payload : String) (delay : Nat) :
    Operation Bool :=
  q.enqueueDelayed name payload (dateAfter now delay)

/-- Takes the payload with the least due date, if that has come. -/
def dequeueDelayed (q : Queue) (now : UInt64) (name : String) : Operation (Option String) :=
  (q.delayedKey name).map fun key =>
    payloadOf .delayedPop
      (Command.delayedPop.request [key] [Text.Decimal.ofNat now.toNat]) (.delayedDequeued key)

/-- Takes a payload out before it is due, and tells whether it was waiting. -/
def remove (q : Queue) (name payload : String) : Operation Bool :=
  (q.delayedKey name).map fun key =>
    Exchange.ofReply (Command.delayedRemove.request [key] [payload]) .store
      (fun reply => .ok reply.isYes) fun wasThere => [.removed key payload wasThere]

/-- How many payloads wait for their due dates. -/
def delayedLen (q : Queue) (name : String) : Operation Nat :=
  (q.delayedKey name).map fun key =>
    countOf .delayedLen (Command.delayedLen.request [key] [])

/-- The keys of both collections of a name. -/
def bothKeys (q : Queue) (name : String) : Except Error (List String) :=
  (q.listKey name).bind fun list => (q.delayedKey name).map fun delayed => [list, delayed]

/-- Deletes both collections, and tells whether there was one. -/
def destroy (q : Queue) (name : String) : Operation Bool :=
  (q.bothKeys name).map fun keys =>
    (Exchange.ofReply (Command.destroy.request keys []) .store
      (Reply.asInt Command.destroy.name) fun deleted => [.destroyed name deleted]).andThen
      fun deleted => .ok (0 < deleted)

end Queue

end Turnstile
