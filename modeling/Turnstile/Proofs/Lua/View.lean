import Turnstile.Proofs.Lua.Ranking

/-!
# The keyspace as a server has it

`Lua.Dataset.of` is what is live in a keyspace at a point of time, in the form in which a
server keeps it. It takes up the keys, values and expiries that clients see and nothing else :
two keyspaces in which a single key differs give datasets that differ in its bytes
(`Lua.Dataset.of_eq_update`).
-/

namespace Turnstile.Lua

/-- A value of the keyspace as a server keeps it. -/
@[simp] def Data.of : Turnstile.Value → Data
  | .text value => .text (Text.bytes value)
  | .list items => .list (items.map Text.bytes)
  | .sorted set => .sorted set.ranking

/-- An entry of the keyspace as a server keeps it. -/
@[simp] def Record.of (e : Entry) : Record := ⟨Data.of e.value, e.expiresAt⟩

namespace Dataset

/-- What is live in a keyspace at a point of time. -/
def of (k : Keyspace) (now : Nat) : Dataset := fun b =>
  (Text.exactText? b).bind fun key => (k.live? now key).map Record.of

theorem of_bytes (k : Keyspace) (now : Nat) (key : String) :
    of k now (Text.bytes key) = (k.live? now key).map Record.of := by
  rw [of, Text.exactText?_bytes, Option.bind_some]

/-- Keyspaces that show the same give the same dataset. -/
theorem of_congr {k k' : Keyspace} {now : Nat} (same : ∀ key, k'.live? now key = k.live? now key) :
    of k' now = of k now := by
  funext b
  simp only [of, same]

/-- Keyspaces in which just one key differs give datasets that differ just there. -/
theorem of_eq_update {k k' : Keyspace} {now : Nat} {key : String} {live : Option Entry}
    (here : k'.live? now key = live)
    (others : ∀ other, key ≠ other → k'.live? now other = k.live? now other) :
    of k' now = Function.update (of k now) (Text.bytes key) (live.map Record.of) := by
  funext b
  by_cases same : b = Text.bytes key
  · rw [same, Function.update_self, of_bytes, here]
  · rw [Function.update_of_ne same]
    unfold of
    cases decoded : Text.exactText? b with
    | none => rfl
    | some other =>
      have apart : key ≠ other := by
        rintro rfl
        exact same (Text.exactText?_eq_some.1 decoded).symm
      rw [Option.bind_some, Option.bind_some, others other apart]

end Dataset

/-! ## Collections that become empty -/

theorem isEmptyCollection_list (items : List String) :
    (Data.list (items.map Text.bytes)).isEmptyCollection = items.isEmpty := by
  cases items <;> rfl

theorem isEmptyCollection_sorted {set : SortedSet} (agrees : set.Agrees) :
    (Data.sorted set.ranking).isEmptyCollection = (set.size == 0) := by
  rw [Bool.eq_iff_iff]
  simp [Data.isEmptyCollection, ← agrees.length_ranking]

namespace Dataset

variable {e : Entry}

/-- A server stores and drops what the keyspace does. -/
theorem store_of (same : (Data.of e.value).isEmptyCollection = e.value.isEmptyCollection)
    (d : Dataset) (key : Bytes) (live : Option Entry) :
    d.store key (Record.of e) =
      Function.update d key (((Change.store e).on live).map Record.of) := by
  unfold store Change.store
  rw [Record.of, same]
  cases e.value.isEmptyCollection <;> rfl

end Dataset

end Turnstile.Lua
