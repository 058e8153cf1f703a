import Turnstile.Identity.Token
import Turnstile.Store.Action
import Turnstile.Store.Keyspace

/-!
# Evaluation in the keyspace

`Keyspace.eval` runs one request at a point of time: it counts the evaluation, checks the
arguments and performs the action. Every action touches its key first, so it works on what
is live. A list or sorted set that becomes empty goes with its key. An action on a key that
holds a value of another kind fails and changes nothing.
-/

namespace Turnstile

namespace Keyspace

/-! ## Locks -/

/-- Stores a token with a lease under a key that is absent. -/
def acquire (k : Keyspace) (now : Nat) (key token : String) (lease : Nat) : Answer × Keyspace :=
  let k := k.touch now key
  match k.entries[key]? with
  | some _ => (.ok (.ofBool false), k)
  | none => (.ok (.ofBool true), k.put key ⟨.text token, some (now + lease)⟩)

/-- Gives the token in a key a new lease if it is one that the caller owns. -/
def extend (owns : String → Bool) (k : Keyspace) (now : Nat) (key : String) (lease : Nat) :
    Answer × Keyspace :=
  let k := k.touch now key
  match k.entries[key]? with
  | none => (.ok (.ofBool false), k)
  | some ⟨.text token, _⟩ =>
    if owns token then (.ok (.ofBool true), k.put key ⟨.text token, some (now + lease)⟩)
    else (.ok (.ofBool false), k)
  | some _ => (.error (.wrongType key), k)

/-- Deletes a key that holds the given token. -/
def release (k : Keyspace) (now : Nat) (key token : String) : Answer × Keyspace :=
  let k := k.touch now key
  match k.entries[key]? with
  | none => (.ok (.ofBool false), k)
  | some ⟨.text holder, _⟩ =>
    if holder = token then (.ok (.ofBool true), k.delete key) else (.ok (.ofBool false), k)
  | some _ => (.error (.wrongType key), k)

/-- The token in a key. -/
def owner (k : Keyspace) (now : Nat) (key : String) : Answer × Keyspace :=
  let k := k.touch now key
  match k.entries[key]? with
  | none => (.ok .nil, k)
  | some ⟨.text token, _⟩ => (.ok (.text token), k)
  | some _ => (.error (.wrongType key), k)

/-! ## Lists -/

/-- Appends a payload to a list. -/
def push (k : Keyspace) (now : Nat) (key payload : String) : Answer × Keyspace :=
  let k := k.touch now key
  match k.entries[key]? with
  | none => (.ok (.int 1), k.put key ⟨.list [payload], none⟩)
  | some ⟨.list items, t⟩ =>
    let items := items ++ [payload]
    (.ok (.int items.length), k.put key ⟨.list items, t⟩)
  | some _ => (.error (.wrongType key), k)

/-- Takes the first payload of a list. -/
def pop (k : Keyspace) (now : Nat) (key : String) : Answer × Keyspace :=
  let k := k.touch now key
  match k.entries[key]? with
  | none => (.ok .nil, k)
  | some ⟨.list items, t⟩ => (.ok (.ofText? items.head?), k.putOrDelete key ⟨.list items.tail, t⟩)
  | some _ => (.error (.wrongType key), k)

/-- The length of a list. -/
def len (k : Keyspace) (now : Nat) (key : String) : Answer × Keyspace :=
  let k := k.touch now key
  match k.entries[key]? with
  | none => (.ok (.int 0), k)
  | some ⟨.list items, _⟩ => (.ok (.int items.length), k)
  | some _ => (.error (.wrongType key), k)

/-! ## Sorted sets -/

/-- Gives a payload a score, and tells whether it is new. -/
def delayedPush (k : Keyspace) (now : Nat) (key payload : String) (score : Int) :
    Answer × Keyspace :=
  let k := k.touch now key
  match k.entries[key]? with
  | none => (.ok (.ofBool true), k.put key ⟨.sorted (SortedSet.insert {} payload score), none⟩)
  | some ⟨.sorted set, t⟩ =>
    (.ok (.ofBool !(set.contains payload)), k.put key ⟨.sorted (set.insert payload score), t⟩)
  | some _ => (.error (.wrongType key), k)

/-- Takes the first payload of a sorted set if its score is at most `limit`. -/
def delayedPop (k : Keyspace) (now : Nat) (key : String) (limit : Int) : Answer × Keyspace :=
  let k := k.touch now key
  match k.entries[key]? with
  | none => (.ok .nil, k)
  | some ⟨.sorted set, t⟩ =>
    match set.first?.filter fun slot => slot.score ≤ limit with
    | some slot =>
      (.ok (.text slot.payload), k.putOrDelete key ⟨.sorted (set.erase slot.payload), t⟩)
    | none => (.ok .nil, k.putOrDelete key ⟨.sorted set, t⟩)
  | some _ => (.error (.wrongType key), k)

/-- Takes a payload out of a sorted set, and tells whether it was there. -/
def delayedRemove (k : Keyspace) (now : Nat) (key payload : String) : Answer × Keyspace :=
  let k := k.touch now key
  match k.entries[key]? with
  | none => (.ok (.ofBool false), k)
  | some ⟨.sorted set, t⟩ =>
    (.ok (.ofBool (set.contains payload)), k.putOrDelete key ⟨.sorted (set.erase payload), t⟩)
  | some _ => (.error (.wrongType key), k)

/-- The size of a sorted set. -/
def delayedLen (k : Keyspace) (now : Nat) (key : String) : Answer × Keyspace :=
  let k := k.touch now key
  match k.entries[key]? with
  | none => (.ok (.int 0), k)
  | some ⟨.sorted set, _⟩ => (.ok (.int set.size), k)
  | some _ => (.error (.wrongType key), k)

/-! ## Deletion -/

/-- Deletes keys one after the other, and counts those that existed. -/
def destroy (now : Nat) : List String → Keyspace → Nat × Keyspace
  | [], k => (0, k)
  | key :: keys, k =>
    let k := k.touch now key
    let found := k.entries.contains key
    let (count, k) := destroy now keys (k.delete key)
    (count + found.toNat, k)

/-! ## Requests -/

/-- Performs an action at a point of time. -/
def perform (k : Keyspace) (now : Nat) : Action → Answer × Keyspace
  | .acquire key token lease => k.acquire now key token lease
  | .reenter key owner lease => k.extend (startsWith · owner) now key lease
  | .renew key token lease => k.extend (· == token) now key lease
  | .release key token => k.release now key token
  | .owner key => k.owner now key
  | .push key payload => k.push now key payload
  | .pop key => k.pop now key
  | .len key => k.len now key
  | .delayedPush key payload score => k.delayedPush now key payload score
  | .delayedPop key limit => k.delayedPop now key limit
  | .delayedRemove key payload => k.delayedRemove now key payload
  | .delayedLen key => k.delayedLen now key
  | .destroy keys =>
    let (count, k) := destroy now keys k
    (.ok (.int count), k)

/-- Runs a request at a point of time. -/
def eval (k : Keyspace) (now : Nat) (r : Request) : Answer × Keyspace :=
  let k := k.tick now
  match Action.ofRequest r with
  | .error e => (.error e, k)
  | .ok action => k.perform now action

end Keyspace

end Turnstile
