import Turnstile.Simulation.Step

/-!
# The world of a simulation

Everything in a simulation shares one store and one clock. Time stands still except where
something sleeps or a question takes time. Questions to the store are recorded before they
are answered, and so is what is logged.
-/

namespace Turnstile.Simulation

/-- A step that was put off, and when it is due. -/
structure Event where
  due : Nat
  step : Step

/-- The state of a simulation. -/
structure World where
  now : Nat := 0
  /-- The number of the thread that is running. -/
  thread : Nat := 1
  /-- What the wall clock shows when the time is zero, in nanoseconds since the epoch. -/
  wallStart : Int := 0
  store : Keyspace := {}
  serials : SerialCounter := .upTo SerialCounter.tokenLimit
  canned : List Answer := []
  down : Option StoreError := none
  latency : Nat := 0
  managers : Std.TreeMap String Lock.Manager := ∅
  /-- The number of the handle that an id stands for. -/
  handleIds : Std.TreeMap String Nat := ∅
  handles : Std.TreeMap Nat (Lock.Handle × Lock.Hold) := ∅
  queues : Std.TreeMap String (Turnstile.Queue × DateSource) := ∅
  clocks : Std.TreeMap String Queue.ManualClock := ∅
  flags : Std.TreeMap String Bool := ∅
  /-- The steps that were put off, in the order in which that happened. -/
  events : List Event := []
  /-- The questions asked so far, the newest first. -/
  asked : List Request := []
  /-- What was logged so far, the newest first. -/
  logged : List LogRecord := []
  /-- When steps that were put off ran, and their results, the newest first. -/
  ran : List (Nat × Result) := []

/-- How to let a length of time pass. -/
abbrev Passing := Nat → World → World

namespace World

/-- The event that is due next, if it is due by a point of time, and the world without it.
Of events that are due at once the first put off comes first. -/
def nextDue (w : World) (limit : Nat) : Option (Event × World) :=
  match (w.events.map Event.due).min? with
  | none => none
  | some due =>
    if limit < due then none
    else
      match w.events.find? fun e => e.due == due with
      | none => none
      | some e => some (e, { w with events := w.events.eraseP fun e => e.due == due })

/-- Lets the time pass that a question takes. -/
def await (pass : Passing) (w : World) : World :=
  if w.latency = 0 then w else pass w.latency w

/-- Asks the store. What stands in for its answer is settled when the question is asked; the
store itself answers when the time that the question takes is over. -/
def ask (pass : Passing) (r : Request) (w : World) : Answer × World :=
  let w := { w with asked := r :: w.asked }
  match w.canned, w.down with
  | a :: rest, _ => (a, await pass { w with canned := rest })
  | [], some e => (.error e, w.await pass)
  | [], none =>
    let w := w.await pass
    let (answer, store) := w.store.eval w.now r
    (answer, { w with store })

/-- Logs records in their order. -/
def log (w : World) (records : List LogRecord) : World :=
  { w with logged := records.reverse ++ w.logged }

/-- Carries out an exchange. -/
def exchange {κ ε α : Type} (pass : Passing) (record : κ → LogRecord) (x : Exchange κ ε α)
    (w : World) : Except ε α × World :=
  let (answer, w) := w.ask pass x.request
  let (events, result) := x.finish answer
  (result, w.log (events.map record))

/-- The handle with a number, and its flags. -/
def handle? (w : World) (id : String) : Option (Nat × Lock.Handle × Lock.Hold) := do
  let n ← w.handleIds[id]?
  let h ← w.handles[n]?
  return (n, h)

/-- What the handle with a number runs in. -/
def surroundings (pass : Passing) (n : Nat) : Lock.Surroundings World where
  ask r w :=
    let (answer, w') := w.ask pass r
    (answer, w'.now - w.now, w')
  sleep span w :=
    let w' := pass span w
    (w'.now - (w.now + span), w')
  hold w := (w.handles[n]?.map Prod.snd).getD .none
  commit hold events w :=
    match w.handles[n]? with
    | some (h, _) =>
      let w := { w with handles := w.handles.insert n (h, hold) }
      w.log (events.map (Lock.Event.record h))
    | none => w

/-- Makes a handle known by an id. -/
def addHandle (w : World) (id : String) (h : Lock.Handle) : World :=
  let n := w.handles.size
  { w with
    handleIds := w.handleIds.insert id n
    handles := w.handles.insert n (h, .none) }

/-- The text of an argument. -/
def argText (w : World) : Arg → String
  | .text value => value
  | .tokenOf id => ((w.handle? id).map fun h => h.2.1.token.text).getD ""
  | .ownerOf id => ((w.handle? id).map fun h => h.2.1.token.owner).getD ""

/-- Whether a cancel flag is set. -/
def isCancelled (flag : String) (w : World) : Bool := w.flags[flag]?.getD false

/-- The date that a queue reads. -/
def date (w : World) : DateSource → UInt64
  | .manual clock => (w.clocks[clock]?.getD {}).now
  | .wall => Queue.wallSeconds (w.wallStart + w.now)

/-- The world at the start of a session: a manager `m` on host `h`, a clock `c` and a queue
`q` that reads it. -/
def initial : World :=
  let w : World := {}
  let w :=
    { w with
      managers := w.managers.insert "m" { source := ⟨"h", 1⟩ }
      clocks := w.clocks.insert "c" { now := 1000 } }
  match Queue.make {} with
  | .ok q => { w with queues := w.queues.insert "q" (q, .manual "c") }
  | .error _ => w

end World

end Turnstile.Simulation
