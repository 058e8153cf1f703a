import Turnstile.Lock.Handle

/-!
# Calls on a handle, question by question

A call asks the store at most three questions, one after the other, and between two of them
other clients may run. `Call.start` is what a call does before its first question and
`Stage.resume` what it does with an answer: each gives the flags of the handle, the events
to log and either the next question or the result (`Move`). `resume` takes the flags as they
are when the answer arrives.

- `renew` asks for a new lease: by the token if the hold is fresh, by the owner if it is
  reentrant. A hold that turns out to be lost is given up.
- `tryLock` extends a fresh hold; failing that it takes the key if it is absent, and else
  enters it again if its token is of the same thread.
- `unlock` gives a reentrant hold up without a word to the store, which is left to the outer
  handle, and deletes the key of a fresh one. It never fails.
-/

namespace Turnstile.Lock

/-- The calls that are no wait. -/
inductive Call where
  | renew
  | tryLock
  | unlock
deriving DecidableEq, Repr

/-- What a handle logs. -/
inductive Event where
  | renewed
  | lost
  | acquired
  | reentered
  /-- A reentrant hold was given up. -/
  | left
  | released
  | notReleased
  | releaseFailed (error : StoreError)
deriving DecidableEq, Repr

/-- The record of an event of a handle. -/
def Event.record (h : Handle) (e : Event) : LogRecord :=
  let own : List (String × LogValue) := [("key", .text h.key), ("token", .text h.token.text)]
  match e with
  | renewed => ⟨.debug, "lock lease renewed", own⟩
  | lost => ⟨.warn, "lock lease lost before renewal", own⟩
  | acquired => ⟨.debug, "lock acquired", own⟩
  | reentered => ⟨.debug, "lock re-entered", own⟩
  | left => ⟨.debug, "reentrant hold released, lock left to outer holder", own⟩
  | released => ⟨.debug, "lock released", own⟩
  | notReleased =>
    ⟨.warn, "lock not released: lease expired or owned by another holder", own⟩
  | releaseFailed error =>
    ⟨.warn, "lock release failed", own ++ [("error", .text error.message)]⟩

/-- The question whose answer a call waits for. -/
inductive Stage where
  /-- `renew` asked for a new lease, by the owner or by the token. -/
  | renewing (byOwner : Bool)
  /-- `tryLock` asked for a new lease of a fresh hold. -/
  | extending
  /-- `tryLock` asked for the key to be taken. -/
  | acquiring
  /-- `tryLock` asked to enter the key again. -/
  | reentering
  /-- `unlock` asked for the key to be deleted. -/
  | releasing
deriving DecidableEq, Repr

/-- What a stage asks the store. -/
def Stage.request (h : Handle) : Stage → Request
  | renewing true => Command.reenter.request [h.key] [h.token.owner, h.leaseArg]
  | renewing false => Command.renew.request [h.key] [h.token.text, h.leaseArg]
  | extending => Command.renew.request [h.key] [h.token.text, h.leaseArg]
  | acquiring => Command.acquire.request [h.key] [h.token.text, h.leaseArg]
  | reentering => Command.reenter.request [h.key] [h.token.owner, h.leaseArg]
  | releasing => Command.release.request [h.key] [h.token.text]

/-- How a call goes on. -/
inductive Next where
  | ask (stage : Stage)
  | finish (result : Except StoreError Bool)

/-- What a call does at one go. -/
structure Move where
  hold : Hold
  events : List Event := []
  next : Next

/-- What a call does before its first question. -/
def Call.start (call : Call) (hold : Hold) : Move :=
  match call with
  | renew =>
    if hold.held then { hold, next := .ask (.renewing hold.nested) }
    else { hold, next := .finish (.ok false) }
  | tryLock =>
    if hold.isFresh then { hold, next := .ask .extending } else { hold, next := .ask .acquiring }
  | unlock =>
    if hold.isReentrant then { hold := .none, events := [.left], next := .finish (.ok true) }
    else if hold.held then { hold := .none, next := .ask .releasing }
    else { hold, next := .finish (.ok false) }

/-- What a call does with the answer to its question. -/
def Stage.resume (stage : Stage) (hold : Hold) (answer : Answer) : Move :=
  match stage, answer with
  | releasing, .error e =>
    { hold, events := [.releaseFailed e], next := .finish (.ok false) }
  | releasing, .ok reply =>
    if reply.isYes then { hold, events := [.released], next := .finish (.ok true) }
    else { hold, events := [.notReleased], next := .finish (.ok false) }
  | _, .error e => { hold, next := .finish (.error e) }
  | renewing _, .ok reply =>
    if reply.isYes then { hold, events := [.renewed], next := .finish (.ok true) }
    else
      { hold := { hold with held := false }, events := [.lost], next := .finish (.ok false) }
  | extending, .ok reply =>
    if reply.isYes then { hold, events := [.renewed], next := .finish (.ok true) }
    else { hold := { hold with held := false }, events := [.lost], next := .ask .acquiring }
  | acquiring, .ok reply =>
    if reply.isYes then { hold := .fresh, events := [.acquired], next := .finish (.ok true) }
    else { hold, next := .ask .reentering }
  | reentering, .ok reply =>
    if reply.isYes then
      { hold := .reentrant, events := [.reentered], next := .finish (.ok true) }
    else { hold, next := .finish (.ok false) }

/-- How many more questions a call can ask after one of a stage. -/
def Stage.later : Stage → Nat
  | extending => 2
  | acquiring => 1
  | _ => 0

/-- How many questions a call can still ask. -/
def Next.questions : Next → Nat
  | ask stage => stage.later + 1
  | finish _ => 0

/-- An answer brings a call closer to its end. -/
theorem Stage.questions_resume (stage : Stage) (hold : Hold) (answer : Answer) :
    (stage.resume hold answer).next.questions ≤ stage.later := by
  fun_cases Stage.resume <;> simp [Next.questions, later]

/-- No call asks more than three questions. -/
theorem Call.questions_start (call : Call) (hold : Hold) :
    (call.start hold).next.questions ≤ 3 := by
  fun_cases Call.start <;> simp [Next.questions, Stage.later]

end Turnstile.Lock
