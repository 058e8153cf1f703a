import Turnstile.Simulation.World

/-!
# Running a simulation

A step is run in a world with a way to let time pass. Letting time pass runs, at their due
dates, the steps that were put off, on behalf of whoever sleeps; these may sleep in turn.
Since every step is put off once, their number bounds this (`Step.putOff`).
-/

namespace Turnstile.Simulation

/-! ## Steps on the store and the surroundings -/

/-- Runs a step on the store or the surroundings. -/
def runStore (pass : Passing) (w : World) : StoreStep → Result × World
  | .eval script keys args =>
    let (answer, w) := w.ask pass ⟨script, keys, args.map w.argText⟩
    (.ofExcept .store .reply answer, w)
  | .contains key =>
    let (found, store) := w.store.contains w.now key
    (.flag found, { w with store })
  | .timeLeft key =>
    let (left, store) := w.store.timeLeft? w.now key
    (.span? left, { w with store })
  | .clear => (.nothing, { w with store := w.store.clear })
  | .sleep span => (.nothing, pass span w)
  | .setWall nanos => (.nothing, { w with wallStart := nanos - w.now })
  | .canned answers => (.nothing, { w with canned := w.canned ++ answers })
  | .down error => (.nothing, { w with down := error })
  | .latency span => (.nothing, { w with latency := span })

/-! ## Steps on locks -/

/-- Runs a handle's operation, if there is a handle of the id. -/
def onHandle {ε α : Type} (w : World) (id : String) (failure : ε → Failure) (result : α → Result)
    (run : Nat → Lock.Handle → World → Except ε α × World) : Result × World :=
  match w.handle? id with
  | none => (.unknown, w)
  | some (n, h, _) =>
    let (r, w) := run n h w
    (.ofExcept failure result r, w)

/-- Runs a call on a handle. -/
def runCall (pass : Passing) (call : Lock.Call) (n : Nat) (h : Lock.Handle) (w : World) :
    Except StoreError Bool × World :=
  let (r, _, w) := h.run (World.surroundings pass n) call w
  (r, w)

/-- Runs a call on handles one after the other, and counts how often it came to yes. -/
def race (pass : Passing) (call : Lock.Call) : List String → World → Nat × World
  | [], w => (0, w)
  | id :: ids, w =>
    match w.handle? id with
    | none => race pass call ids w
    | some (n, h, _) =>
      let (r, w) := runCall pass call n h w
      let (count, w) := race pass call ids w
      match r with
      | .ok true => (count + 1, w)
      | _ => (count, w)

/-- Runs an exchange of a manager, if there is a manager of the id. -/
def onManager {α : Type} (pass : Passing) (w : World) (id : String) (result : α → Result)
    (x : Lock.Manager → Exchange Empty Lock.Error α) : Result × World :=
  match w.managers[id]? with
  | none => (.unknown, w)
  | some m =>
    let (r, w) := w.exchange pass Empty.elim (x m)
    (.ofExcept .lock result r, w)

/-- Runs a step on locks. -/
def runLock (pass : Passing) (w : World) : LockStep → Result × World
  | .manager id host process settings =>
    let host :=
      match host with
      | .named host => host
      | .ofInterfaces interfaces => localAddress interfaces
    let m : Lock.Manager := { settings, source := ⟨host, process⟩ }
    (.manager m, { w with managers := w.managers.insert id m })
  | .key id name =>
    match w.managers[id]? with
    | none => (.unknown, w)
    | some m => (.text? (some (m.key name)), w)
  | .owner id name => onManager pass w id .text? fun m => m.owner name
  | .isLocked id name => onManager pass w id .flag fun m => m.isLocked name
  | .handle id source name settings =>
    match w.managers[source]? with
    | none => (.unknown, w)
    | some m =>
      let (r, serials) := m.handle w.thread w.serials name settings
      match r with
      | .error e => (.failed (.lock e), w)
      | .ok h => (.handle h, World.addHandle { w with serials } id h)
  | .call id c => onHandle w id .store .flag (runCall pass c)
  | .lock id =>
    onHandle w id .lock (fun _ => .locked) fun n h => h.lock (World.surroundings pass n)
  | .tryLockFor id limit =>
    onHandle w id .lock .flag fun n h => h.tryLockFor (World.surroundings pass n) limit
  | .tryLockInterruptibly id flag limit =>
    onHandle w id .lock .flag fun n h =>
      h.tryLockInterruptibly (World.surroundings pass n) (World.isCancelled flag) limit
  | .hold id =>
    match w.handle? id with
    | none => (.unknown, w)
    | some (_, _, hold) => (.hold hold, w)
  | .sameOwner id stored =>
    match w.handle? id with
    | none => (.unknown, w)
    | some (_, h, _) => (.flags ((stored.map w.argText).map h.token.sameOwner), w)
  | .sameToken id other =>
    match w.handle? id, w.handle? other with
    | some (_, h, _), some (_, h', _) => (.flag (h.token == h'.token), w)
    | _, _ => (.unknown, w)
  | .cancel flag => (.nothing, { w with flags := w.flags.insert flag true })
  | .reset flag => (.nothing, { w with flags := w.flags.insert flag false })
  | .isCancelled flag => (.flag (World.isCancelled flag w), w)
  | .race ids c =>
    let (count, w) := race pass c ids w
    (.count count, w)

/-! ## Steps on queues -/

/-- Runs an operation of a queue, if there is a queue of the id. -/
def onQueue {α : Type} (pass : Passing) (w : World) (id : String) (result : α → Result)
    (operation : Turnstile.Queue → UInt64 → Queue.Operation α) : Result × World :=
  match w.queues[id]? with
  | none => (.unknown, w)
  | some (q, dates) =>
    match operation q (w.date dates) with
    | .error e => (.failed (.queue e), w)
    | .ok x =>
      let (r, w) := w.exchange pass Queue.Event.record x
      (.ofExcept .queue result r, w)

/-- Takes payloads until there are none, but at most `fuel`. -/
def drainOnce (pass : Passing)
    (take : World → Queue.Operation (Option String)) : Nat → World → List String × World
  | 0, w => ([], w)
  | fuel + 1, w =>
    match take w with
    | .error _ => ([], w)
    | .ok x =>
      match w.exchange pass Queue.Event.record x with
      | (.ok (some payload), w) =>
        let (payloads, w) := drainOnce pass take fuel w
        (payload :: payloads, w)
      | (_, w) => ([], w)

/-- Has threads, one after the other, take payloads until there are none. -/
def drain (pass : Passing) (take : World → Queue.Operation (Option String)) (fuel : Nat) :
    Nat → World → List String × World
  | 0, w => ([], w)
  | threads + 1, w =>
    let (payloads, w) := drainOnce pass take fuel w
    let (rest, w) := drain pass take fuel threads w
    (payloads ++ rest, w)

/-- How many payloads an entry of the store holds. -/
def payloadsIn (e : Entry) : Nat :=
  match e.value with
  | .list items => items.length
  | .sorted set => set.size
  | .text _ => 0

/-- More than the payloads that can be taken in a world: those in the store, the answers that
are prepared, and what the steps that were put off can add. -/
def World.payloadBound (w : World) : Nat :=
  w.store.entries.foldl (fun n _ e => n + payloadsIn e) (w.canned.length + 1) +
    supplyOf (w.events.map Event.step)

/-- Runs a step on queues. -/
def runQueue (pass : Passing) (w : World) : QueueStep → Result × World
  | .queue id settings dates =>
    match Queue.make settings with
    | .error e => (.failed (.queue e), w)
    | .ok q => (.queue q, { w with queues := w.queues.insert id (q, dates) })
  | .setClock clock now =>
    (.nothing, { w with clocks := w.clocks.alter clock fun c => some ((c.getD {}).set now) })
  | .advanceClock clock span =>
    (.nothing, { w with clocks := w.clocks.alter clock fun c => some ((c.getD {}).advance span) })
  | .enqueue id name payload =>
    onQueue pass w id (fun _ => .nothing) fun q _ => q.enqueue name payload
  | .dequeue id name => onQueue pass w id .text? fun q _ => q.dequeue name
  | .enqueueDelayed id name payload readyAt =>
    onQueue pass w id .flag fun q _ => q.enqueueDelayed name payload readyAt
  | .enqueueAfter id name payload delay =>
    onQueue pass w id .flag fun q now => q.enqueueAfter now name payload delay
  | .dequeueDelayed id name => onQueue pass w id .text? fun q now => q.dequeueDelayed now name
  | .remove id name payload => onQueue pass w id .flag fun q _ => q.remove name payload
  | .destroy id name => onQueue pass w id .flag fun q _ => q.destroy name
  | .len id name => onQueue pass w id .count fun q _ => q.len name
  | .isEmpty id name => onQueue pass w id .flag fun q _ => q.isEmpty name
  | .delayedLen id name => onQueue pass w id .count fun q _ => q.delayedLen name
  | .enqueueItem id name item none =>
    onQueue pass w id (fun _ => .nothing) fun q _ => q.enqueueItem item.kind.codec name item
  | .enqueueItem id name item (some readyAt) =>
    onQueue pass w id .flag fun q _ => q.enqueueItemDelayed item.kind.codec name item readyAt
  | .dequeueItem id name kind false =>
    onQueue pass w id .item? fun q _ => q.dequeueItem kind.codec name
  | .dequeueItem id name kind true =>
    onQueue pass w id .item? fun q now => q.dequeueItemDelayed now kind.codec name
  | .drain id name threads delayed =>
    match w.queues[id]? with
    | none => (.unknown, w)
    | some (q, dates) =>
      let take (w : World) :=
        if delayed then q.dequeueDelayed (w.date dates) name else q.dequeue name
      let (payloads, w) := drain pass take w.payloadBound threads w
      (.texts (payloads.mergeSort fun a b => decide (a ≤ b)), w)

/-! ## All steps -/

/-- Attempts the lock of a handle, or waits for it, and guards it if it is to be had. -/
def takeGuard (pass : Passing) (wait : Bool) (n : Nat) (h : Lock.Handle) (w : World) :
    Except Lock.Error (Option Lock.Guard) × World :=
  if wait then
    let (r, w) := h.acquire (World.surroundings pass n) w
    (r.map some, w)
  else h.tryAcquire (World.surroundings pass n) w

mutual

/-- Runs a step. -/
def Step.run (pass : Passing) : Step → World → Result × World
  | .store step, w => runStore pass w step
  | .lock step, w => runLock pass w step
  | .queue step, w => runQueue pass w step
  | .later delay step, w => (.nothing, { w with events := w.events ++ [⟨w.now + delay, step⟩] })
  | .row steps, w =>
    let (results, w) := runAll pass steps w
    (results.getLast?.getD .nothing, w)
  | .guarded id wait report body, w =>
    match w.handle? id with
    | none => (.unknown, w)
    | some (n, h, _) =>
      match takeGuard pass wait n h w with
      | (.error e, w) => (.failed (.lock e), w)
      | (.ok none, w) => (.nothing, w)
      | (.ok (some guard), w) =>
        let hold := (World.surroundings pass n).hold w
        let (results, w) := runAll pass body w
        let (released, w) := guard.release (World.surroundings pass n) w
        (.guarded hold results (if report then some released else none), w)

/-- Runs steps one after the other. -/
def runAll (pass : Passing) : List Step → World → List Result × World
  | [], w => ([], w)
  | step :: steps, w =>
    let (r, w) := step.run pass w
    let (rs, w) := runAll pass steps w
    (r :: rs, w)

end

/-- Runs the steps that were put off and are due by a point of time, at most `fuel` of them,
and lets time pass until then. A step that sleeps past that point ends the sleep later, but
what only comes due meanwhile stays put off. -/
def passUntil : Nat → Nat → World → World
  | 0, limit, w => { w with now := max w.now limit }
  | fuel + 1, limit, w =>
    match w.nextDue limit with
    | none => { w with now := max w.now limit }
    | some (e, w) =>
      let w := { w with now := max w.now e.due }
      let start := w.now
      let (r, w) := e.step.run (fun span w => passUntil fuel (w.now + span) w) w
      passUntil fuel limit { w with ran := (start, r) :: w.ran }

/-- Lets a length of time pass, during which at most `fuel` of the steps that were put off
run. -/
def passing (fuel : Nat) : Passing := fun span w => passUntil fuel (w.now + span) w

/-! ## Sessions -/

/-- What there is to tell of a step. -/
structure StepReport where
  result : Result
  /-- The time after the step. -/
  now : Nat
  /-- What was asked during the step, in order. -/
  asked : List Request
  /-- What was logged during the step, in order. -/
  logged : List LogRecord
  /-- When steps that were put off ran during the step, and their results, in order. -/
  ran : List (Nat × Result)
  /-- Whether the watched keys exist after the step, and how long they still live. -/
  watched : List (Bool × Option Nat)
  /-- Whether the step ran on several threads, so that the order of what was asked and logged
  means nothing. -/
  isShared : Bool

/-- Looks at keys. -/
def World.watch : List String → World → List (Bool × Option Nat) × World
  | [], w => ([], w)
  | key :: keys, w =>
    let (found, store) := w.store.contains w.now key
    let (left, store) := store.timeLeft? w.now key
    let (rest, w) := World.watch keys { w with store }
    ((found, left) :: rest, w)

/-- Runs a task and reports on its step. -/
def report (pass : Passing) (keys : List String) (task : Task) (w : World) :
    StepReport × World :=
  let (result, w) :=
    task.step.run pass { w with thread := task.thread, asked := [], logged := [], ran := [] }
  let (watched, w) := w.watch keys
  ({ result
     now := w.now
     asked := w.asked.reverse
     logged := w.logged.reverse
     ran := w.ran.reverse
     watched
     isShared := task.step.isShared }, w)

/-- Runs tasks and reports on each. -/
def reports (pass : Passing) (keys : List String) : List Task → World → List StepReport
  | [], _ => []
  | task :: tasks, w =>
    let (r, w) := report pass keys task w
    r :: reports pass keys tasks w

/-- Runs a session from its start, watching some keys. -/
def session (keys : List String) (tasks : List Task) : List StepReport :=
  reports (passing (putOffIn (tasks.map Task.step))) keys tasks World.initial

end Turnstile.Simulation
