import Turnstile.Reply
import Turnstile.Store.SortedSet

/-!
# The keyspace

A keyspace maps keys to entries: a value and the point of time, if any, from which on the
entry counts as absent. An expired entry may still be stored. It goes when its key is
touched (`Keyspace.touch`), and every 256th evaluation sweeps the whole keyspace
(`Keyspace.tick`). What a client can see of a key is `Keyspace.live?`.
-/

namespace Turnstile

/-- What a key can hold. -/
inductive Value where
  | text (value : String)
  | list (items : List String)
  | sorted (set : SortedSet)

/-- Whether a value is a collection without elements. -/
def Value.isEmptyCollection : Value → Bool
  | text _ => false
  | list items => items.isEmpty
  | sorted set => set.size == 0

/-- What is stored under a key. -/
structure Entry where
  value : Value
  expiresAt : Option Nat := none

/-- Whether an entry counts as absent. -/
def Entry.isExpired (e : Entry) (now : Nat) : Bool :=
  match e.expiresAt with
  | some t => t ≤ now
  | none => false

/-- Keys with their entries, and how many evaluations there have been, in a word of 64
bits. -/
structure Keyspace where
  entries : Std.TreeMap String Entry := ∅
  evals : UInt64 := 0

namespace Keyspace

/-- Evaluations from one sweep to the next. -/
abbrev sweepEvery : UInt64 := 256

/-- The entry of a key that clients see. -/
def live? (k : Keyspace) (now : Nat) (key : String) : Option Entry :=
  k.entries[key]?.filter fun e => !e.isExpired now

/-- Takes the entry of a key out if it has expired. -/
def touch (k : Keyspace) (now : Nat) (key : String) : Keyspace :=
  match k.entries[key]? with
  | some e => if e.isExpired now then { k with entries := k.entries.erase key } else k
  | none => k

/-- Takes every expired entry out. -/
def sweep (k : Keyspace) (now : Nat) : Keyspace :=
  { k with entries := k.entries.filter fun _ e => !e.isExpired now }

/-- Counts an evaluation, and sweeps when its turn has come. -/
def tick (k : Keyspace) (now : Nat) : Keyspace :=
  let k := { k with evals := k.evals + 1 }
  if k.evals % sweepEvery = 0 then k.sweep now else k

/-- Stores an entry. -/
def put (k : Keyspace) (key : String) (e : Entry) : Keyspace :=
  { k with entries := k.entries.insert key e }

/-- Takes out whatever is stored under a key. -/
def delete (k : Keyspace) (key : String) : Keyspace :=
  { k with entries := k.entries.erase key }

/-- Stores an entry, unless it is a collection that has become empty: then the key goes. -/
def putOrDelete (k : Keyspace) (key : String) (e : Entry) : Keyspace :=
  if e.value.isEmptyCollection then k.delete key else k.put key e

/-- Whether a key exists. Looking takes an expired entry out. -/
def contains (k : Keyspace) (now : Nat) (key : String) : Bool × Keyspace :=
  let k := k.touch now key
  (k.entries[key]?.isSome, k)

/-- How long an entry still lives, if it exists and expires. Looking takes an expired entry
out. -/
def timeLeft? (k : Keyspace) (now : Nat) (key : String) : Option Nat × Keyspace :=
  let k := k.touch now key
  ((k.entries[key]?.bind Entry.expiresAt).map (· - now), k)

/-- Takes every entry out. The count of evaluations goes on. -/
def clear (k : Keyspace) : Keyspace := { k with entries := ∅ }

/-! ## What touching a key shows -/

theorem getElem?_touch_self (k : Keyspace) (now : Nat) (key : String) :
    (k.touch now key).entries[key]? = k.live? now key := by
  unfold touch live?
  split
  · next e h =>
    split
    · next expired => simp [h, Option.filter, expired]
    · next expired => simp [h, Option.filter, expired]
  · next h => simp [h]

theorem getElem?_touch_of_ne (k : Keyspace) (now : Nat) {key other : String} (h : key ≠ other) :
    (k.touch now key).entries[other]? = k.entries[other]? := by
  unfold touch
  split
  · split
    · simp [Std.TreeMap.getElem?_erase, h]
    · rfl
  · rfl

/-- Touching a key changes nothing that clients see. -/
theorem live?_touch (k : Keyspace) (now : Nat) (key other : String) :
    (k.touch now key).live? now other = k.live? now other := by
  by_cases h : key = other
  · subst h
    unfold live?
    rw [getElem?_touch_self]
    simp [live?, Option.filter_filter]
  · simp [live?, getElem?_touch_of_ne k now h]

/-! ## What a change shows -/

theorem live?_put (k : Keyspace) (now : Nat) (key other : String) (e : Entry) :
    (k.put key e).live? now other =
      if key = other then (some e).filter fun e => !e.isExpired now else k.live? now other := by
  by_cases same : key = other <;> simp [put, live?, Std.TreeMap.getElem?_insert, same]

theorem live?_delete (k : Keyspace) (now : Nat) (key other : String) :
    (k.delete key).live? now other = if key = other then none else k.live? now other := by
  by_cases same : key = other <;> simp [delete, live?, Std.TreeMap.getElem?_erase, same]

theorem live?_clear (k : Keyspace) (now : Nat) (key : String) : k.clear.live? now key = none := by
  simp [clear, live?]

/-- A sweep changes nothing that clients see. -/
theorem live?_sweep (k : Keyspace) (now : Nat) (key : String) :
    (k.sweep now).live? now key = k.live? now key := by
  simp [sweep, live?, Std.TreeMap.getElem?_filter, Option.filter_filter]

/-- Counting an evaluation changes nothing that clients see. -/
theorem live?_tick (k : Keyspace) (now : Nat) (key : String) :
    (k.tick now).live? now key = k.live? now key := by
  simp only [tick]
  split
  · rw [live?_sweep]
    rfl
  · rfl

end Keyspace

end Turnstile
