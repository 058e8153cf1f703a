import Turnstile.Lock.Wait
import Turnstile.Simulation.Item
import Turnstile.Store.Eval

/-!
# Steps and their results

A simulation is a row of steps. A step works on the store, a lock or a queue, changes the
surroundings, or holds further steps: a row of them, one to run at a later time, or the body
that a guard protects. A task is a step on a thread; the steps that it holds run on the same
thread. Managers, handles, queues, clocks and cancel flags go by ids.
-/

namespace Turnstile.Simulation

/-! ## Steps -/

/-- An argument of a script. -/
inductive Arg where
  | text (value : String)
  /-- The token of a handle. -/
  | tokenOf (handle : String)
  /-- What the tokens of a handle's thread begin with. -/
  | ownerOf (handle : String)
deriving DecidableEq, Repr

/-- What a manager's host is called. -/
inductive HostName where
  | named (host : String)
  /-- By the address of one of its interfaces. -/
  | ofInterfaces (interfaces : Option (List Address))
deriving DecidableEq, Repr

/-- What a queue reads the date off. -/
inductive DateSource where
  | manual (clock : String)
  | wall
deriving DecidableEq, Repr

/-- Steps that work on the store itself or on the surroundings. -/
inductive StoreStep where
  | eval (script : Script) (keys : List String) (args : List Arg)
  | contains (key : String)
  | timeLeft (key : String)
  | clear
  | sleep (span : Nat)
  /-- Sets the wall clock, in nanoseconds since the epoch. -/
  | setWall (nanos : Int)
  /-- Has the next answers come from a row and not from the store. -/
  | canned (answers : List Answer)
  /-- Has the store fail, or work again. -/
  | down (error : Option StoreError)
  /-- Has every question take so long. -/
  | latency (span : Nat)

/-- Steps that work on locks. -/
inductive LockStep where
  | manager (id : String) (host : HostName) (process : Nat) (settings : LockSettings)
  | key (manager name : String)
  | owner (manager name : String)
  | isLocked (manager name : String)
  | handle (id manager name : String) (settings : Option LockSettings)
  | call (handle : String) (call : Lock.Call)
  | lock (handle : String)
  | tryLockFor (handle : String) (limit : Nat)
  | tryLockInterruptibly (handle flag : String) (limit : Nat)
  | hold (handle : String)
  | sameOwner (handle : String) (stored : List Arg)
  | sameToken (handle other : String)
  | cancel (flag : String)
  | reset (flag : String)
  | isCancelled (flag : String)
  /-- Runs a call on several handles at once, each on a thread of its own. -/
  | race (handles : List String) (call : Lock.Call)

/-- Steps that work on queues. -/
inductive QueueStep where
  | queue (id : String) (settings : QueueSettings) (dates : DateSource)
  | setClock (clock : String) (now : UInt64)
  | advanceClock (clock : String) (span : Nat)
  | enqueue (queue name payload : String)
  | dequeue (queue name : String)
  | enqueueDelayed (queue name payload : String) (readyAt : UInt64)
  | enqueueAfter (queue name payload : String) (delay : Nat)
  | dequeueDelayed (queue name : String)
  | remove (queue name payload : String)
  | destroy (queue name : String)
  | len (queue name : String)
  | isEmpty (queue name : String)
  | delayedLen (queue name : String)
  | enqueueItem (queue name : String) (item : Item) (readyAt : Option UInt64)
  | dequeueItem (queue name : String) (kind : ItemKind) (delayed : Bool)
  /-- Has several threads take payloads until there are none. -/
  | drain (queue name : String) (threads : Nat) (delayed : Bool)

/-- A step. -/
inductive Step where
  | store (step : StoreStep)
  | lock (step : LockStep)
  | queue (step : QueueStep)
  /-- Runs a step when a length of time is over. -/
  | later (delay : Nat) (step : Step)
  /-- Runs steps in a row. The result is that of the last. -/
  | row (steps : List Step)
  /-- Runs steps under a guard, if the lock is to be had, and ends the guard. With `wait` the
  lock is waited for. With `report` the result of ending the guard is reported. -/
  | guarded (handle : String) (wait report : Bool) (body : List Step)

instance : Inhabited Step := ⟨.row []⟩

/-- A step to be run on a thread. -/
structure Task where
  thread : Nat := 1
  step : Step

mutual

/-- How many steps a step can put off. -/
def Step.putOff : Step → Nat
  | .later _ step => step.putOff + 1
  | .row steps => putOffIn steps
  | .guarded _ _ _ body => putOffIn body
  | _ => 0

/-- How many steps some steps can put off. -/
def putOffIn : List Step → Nat
  | [] => 0
  | step :: steps => step.putOff + putOffIn steps

end

mutual

/-- How many answers a step can add to those that its world has in store: one for each step
that may write, and those that are given as such. -/
def Step.supply : Step → Nat
  | .store (.canned answers) => answers.length
  | .later _ step => step.supply
  | .row steps => supplyOf steps
  | .guarded _ _ _ body => supplyOf body
  | _ => 1

/-- How many answers some steps can add. -/
def supplyOf : List Step → Nat
  | [] => 0
  | step :: steps => step.supply + supplyOf steps

end

/-- Whether a step runs on several threads. -/
def Step.isShared : Step → Bool
  | .lock (.race ..) => true
  | .queue (.drain ..) => true
  | _ => false

/-! ## Results -/

/-- An error of one of the parts of the library. -/
inductive Failure where
  | store (error : StoreError)
  | lock (error : Lock.Error)
  | queue (error : Queue.Error)
deriving DecidableEq, Repr

/-- What a step comes to. -/
inductive Result where
  | nothing
  | flag (value : Bool)
  | flags (values : List Bool)
  | count (value : Nat)
  | text? (value : Option String)
  | texts (values : List String)
  | span? (value : Option Nat)
  | reply (value : Reply)
  | locked
  | manager (value : Lock.Manager)
  | handle (value : Lock.Handle)
  | hold (value : Lock.Hold)
  | queue (value : Turnstile.Queue)
  | item? (value : Option Item)
  | guarded (hold : Lock.Hold) (body : List Result) (released : Option Bool)
  | failed (failure : Failure)
  /-- The step refers to something that does not exist. -/
  | unknown

namespace Result

/-- The result of an operation that may fail. -/
def ofExcept {ε α : Type} (failure : ε → Failure) (result : α → Result) :
    Except ε α → Result
  | .error e => failed (failure e)
  | .ok a => result a

end Result

end Turnstile.Simulation
