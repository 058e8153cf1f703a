import Turnstile.Reply
import Turnstile.Text.Decimal
import Turnstile.Time

/-!
# What a request asks for

A request names its script and gives keys and arguments as texts. `Action.ofRequest` checks
them from left to right, before the store is looked at, and gives the action they stand for,
with leases, scores and dates as numbers. The script is known by its name alone. Which requests
ask for an action is told by `Action.ofRequest_eq_push_iff` and the lemmas beside it, one for each.
-/

namespace Turnstile

/-- What a request asks the store to do. Leases are in nanoseconds. -/
inductive Action where
  | acquire (key token : String) (lease : Nat)
  | reenter (key owner : String) (lease : Nat)
  | renew (key token : String) (lease : Nat)
  | release (key token : String)
  | owner (key : String)
  | push (key payload : String)
  | pop (key : String)
  | len (key : String)
  | delayedPush (key payload : String) (score : Int)
  | delayedPop (key : String) (now : Int)
  | delayedRemove (key payload : String)
  | delayedLen (key : String)
  | destroy (keys : List String)
deriving DecidableEq, Repr

namespace Request

/-- The key at an index, which a message counts from one. -/
def key (r : Request) (index : Nat) : Except StoreError String :=
  match r.keys[index]? with
  | some key => .ok key
  | none =>
    .error (.invalidArgument r.script.name ("missing key #" ++ Text.Decimal.ofNat (index + 1)))

/-- The argument at an index, which a message counts from one. -/
def arg (r : Request) (index : Nat) : Except StoreError String :=
  match r.args[index]? with
  | some arg => .ok arg
  | none =>
    .error
      (.invalidArgument r.script.name ("missing argument #" ++ Text.Decimal.ofNat (index + 1)))

/-- The argument at an index as an integer of 64 bits. -/
def int (r : Request) (index : Nat) : Except StoreError Int := do
  let raw ← r.arg index
  match Text.Decimal.readInt64? raw with
  | some n => .ok n
  | none => .error (.invalidArgument r.script.name (Text.quoted raw ++ " is not an integer"))

/-- The argument at an index as a lease, which is a positive number of milliseconds. -/
def lease (r : Request) (index : Nat) : Except StoreError Nat := do
  let n ← r.int index
  if n ≤ 0 then
    .error (.invalidArgument r.script.name ("invalid expire time " ++ Text.Decimal.ofInt n))
  else .ok (Time.ofMillis n.toNat)

end Request

namespace Action

/-- The action of a command with the keys and arguments of a request. -/
def ofCommand (r : Request) : Command → Except StoreError Action
  | .acquire => do return acquire (← r.key 0) (← r.arg 0) (← r.lease 1)
  | .reenter => do return reenter (← r.key 0) (← r.arg 0) (← r.lease 1)
  | .renew => do return renew (← r.key 0) (← r.arg 0) (← r.lease 1)
  | .release => do return release (← r.key 0) (← r.arg 0)
  | .owner => do return owner (← r.key 0)
  | .push => do return push (← r.key 0) (← r.arg 0)
  | .pop => do return pop (← r.key 0)
  | .len => do return len (← r.key 0)
  | .delayedPush => do return delayedPush (← r.key 0) (← r.arg 0) (← r.int 1)
  | .delayedPop => do return delayedPop (← r.key 0) (← r.int 0)
  | .delayedRemove => do return delayedRemove (← r.key 0) (← r.arg 0)
  | .delayedLen => do return delayedLen (← r.key 0)
  | .destroy => .ok (destroy r.keys)

/-- The action of a request. -/
def ofRequest (r : Request) : Except StoreError Action :=
  match Command.ofName? r.script.name with
  | some c => ofCommand r c
  | none =>
    .error (.backend r.script.name ("no in-memory handler for script " ++ r.script.name))

end Action

end Turnstile
