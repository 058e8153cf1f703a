import Turnstile.Proofs.Store.Asked
import Turnstile.Store.Eval

/-!
# What an action makes of its key

Every action but `destroy` works on one key. Its answer and what becomes of the entry of
that key depend on what is live there and on nothing else : `Action.effect` says how, and
`Keyspace.perform_eq` that the keyspace does just that. `Keyspace.live?_perform` is the
same for what clients see, of every key and at every later point of time.

An evaluation that does not name a key leaves what is live there as it was
(`Keyspace.live?_eval_of_notMem`).
-/

namespace Turnstile

theorem Entry.isExpired_of_le {e : Entry} {t t' : Nat} (le : t ≤ t') (h : e.isExpired t) :
    e.isExpired t' := by
  unfold Entry.isExpired at *
  split at h
  · simp at h ⊢
    omega
  · simp at h

/-! ## Changes of an entry -/

/-- What becomes of the entry of a key. -/
inductive Change where
  | keep
  | put (e : Entry)
  | drop

namespace Change

/-- The entry of a key after a change. -/
def on : Change → Option Entry → Option Entry
  | keep, e => e
  | put e, _ => some e
  | drop, _ => none

/-- An entry is stored, unless it is a collection without elements. -/
def store (e : Entry) : Change := if e.value.isEmptyCollection then drop else put e

@[simp] theorem on_keep (e : Option Entry) : keep.on e = e := rfl

@[simp] theorem on_put (e : Entry) (before : Option Entry) : (put e).on before = some e := rfl

@[simp] theorem on_drop (e : Option Entry) : drop.on e = none := rfl

end Change

namespace Action

/-- What a request for a new lease makes of what is live in its key. -/
def extension (owns : String → Bool) (key : String) (expiry : Nat) :
    Option Entry → Answer × Change
  | none => (.ok (.ofBool false), .keep)
  | some ⟨.text token, _⟩ =>
    if owns token then (.ok (.ofBool true), .put ⟨.text token, some expiry⟩)
    else (.ok (.ofBool false), .keep)
  | some _ => (.error (.wrongType key), .keep)

/-- The answer of an action on one key, and what becomes of the key, where `live` is what is
live there. A deletion is answered as that of one key. -/
def effect (now : Nat) (live : Option Entry) : Action → Answer × Change
  | acquire _ token lease =>
    match live with
    | none => (.ok (.ofBool true), .put ⟨.text token, some (now + lease)⟩)
    | some _ => (.ok (.ofBool false), .keep)
  | reenter key start lease => extension (startsWith · start) key (now + lease) live
  | renew key token lease => extension (· == token) key (now + lease) live
  | release key token =>
    match live with
    | none => (.ok (.ofBool false), .keep)
    | some ⟨.text holder, _⟩ =>
      if holder = token then (.ok (.ofBool true), .drop) else (.ok (.ofBool false), .keep)
    | some _ => (.error (.wrongType key), .keep)
  | owner key =>
    match live with
    | none => (.ok .nil, .keep)
    | some ⟨.text token, _⟩ => (.ok (.text token), .keep)
    | some _ => (.error (.wrongType key), .keep)
  | push key payload =>
    match live with
    | none => (.ok (.int 1), .put ⟨.list [payload], none⟩)
    | some ⟨.list items, t⟩ =>
      (.ok (.int (items ++ [payload]).length), .put ⟨.list (items ++ [payload]), t⟩)
    | some _ => (.error (.wrongType key), .keep)
  | pop key =>
    match live with
    | none => (.ok .nil, .keep)
    | some ⟨.list items, t⟩ => (.ok (.ofText? items.head?), .store ⟨.list items.tail, t⟩)
    | some _ => (.error (.wrongType key), .keep)
  | len key =>
    match live with
    | none => (.ok (.int 0), .keep)
    | some ⟨.list items, _⟩ => (.ok (.int items.length), .keep)
    | some _ => (.error (.wrongType key), .keep)
  | delayedPush key payload score =>
    match live with
    | none => (.ok (.ofBool true), .put ⟨.sorted (SortedSet.insert {} payload score), none⟩)
    | some ⟨.sorted set, t⟩ =>
      (.ok (.ofBool !(set.contains payload)), .put ⟨.sorted (set.insert payload score), t⟩)
    | some _ => (.error (.wrongType key), .keep)
  | delayedPop key limit =>
    match live with
    | none => (.ok .nil, .keep)
    | some ⟨.sorted set, t⟩ =>
      match set.first?.filter fun slot => slot.score ≤ limit with
      | some slot => (.ok (.text slot.payload), .store ⟨.sorted (set.erase slot.payload), t⟩)
      | none => (.ok .nil, .store ⟨.sorted set, t⟩)
    | some _ => (.error (.wrongType key), .keep)
  | delayedRemove key payload =>
    match live with
    | none => (.ok (.ofBool false), .keep)
    | some ⟨.sorted set, t⟩ =>
      (.ok (.ofBool (set.contains payload)), .store ⟨.sorted (set.erase payload), t⟩)
    | some _ => (.error (.wrongType key), .keep)
  | delayedLen key =>
    match live with
    | none => (.ok (.int 0), .keep)
    | some ⟨.sorted set, _⟩ => (.ok (.int set.size), .keep)
    | some _ => (.error (.wrongType key), .keep)
  | destroy _ => (.ok (.int live.isSome.toNat), .drop)

/-- The key that an action works on, unless it deletes any number of keys. -/
def key? : Action → Option String
  | acquire key .. | reenter key .. | renew key .. | release key _ | owner key | push key _
  | pop key | len key | delayedPush key .. | delayedPop key _ | delayedRemove key _
  | delayedLen key => some key
  | destroy _ => none

theorem extension_of_error {owns : String → Bool} {key : String} {expiry : Nat}
    {live : Option Entry} {e : StoreError}
    (failed : (extension owns key expiry live).1 = .error e) :
    (extension owns key expiry live).2 = .keep := by
  unfold extension at failed ⊢
  split
  · rfl
  · split
    · next owned => simp [owned] at failed
    · rfl
  · rfl

/-- An action that fails leaves its key. -/
theorem effect_of_error {a : Action} {now : Nat} {live : Option Entry} {e : StoreError}
    (failed : (a.effect now live).1 = .error e) : (a.effect now live).2 = .keep := by
  cases a with
  | reenter | renew => exact extension_of_error failed
  | release =>
    rcases live with _ | ⟨_ | _ | _, _⟩
    · rfl
    · unfold effect at failed
      dsimp only at failed
      split at failed <;> cases failed
    · rfl
    · rfl
  | delayedPop =>
    rcases live with _ | ⟨_ | _ | _, _⟩
    · rfl
    · rfl
    · rfl
    · unfold effect at failed
      dsimp only at failed
      split at failed <;> cases failed
  | destroy => cases failed
  | acquire | owner | push | pop | len | delayedPush | delayedRemove | delayedLen =>
    rcases live with _ | ⟨_ | _ | _, _⟩ <;> first | rfl | cases failed

end Action

namespace Keyspace

/-- Makes a change to the entry of a key. -/
def change (k : Keyspace) (key : String) : Change → Keyspace
  | .keep => k
  | .put e => k.put key e
  | .drop => k.delete key

@[simp] theorem change_keep (k : Keyspace) (key : String) : k.change key .keep = k := rfl

@[simp] theorem change_put (k : Keyspace) (key : String) (e : Entry) :
    k.change key (.put e) = k.put key e := rfl

@[simp] theorem change_drop (k : Keyspace) (key : String) : k.change key .drop = k.delete key := rfl

@[simp] theorem change_store (k : Keyspace) (key : String) (e : Entry) :
    k.change key (.store e) = k.putOrDelete key e := by
  unfold Change.store putOrDelete
  split <;> rfl

/-- An action touches its key and makes the change that suits what is live there. -/
theorem perform_eq (k : Keyspace) (now : Nat) {a : Action} {key : String} (h : a.key? = some key) :
    k.perform now a =
      ((a.effect now (k.live? now key)).1,
        (k.touch now key).change key (a.effect now (k.live? now key)).2) := by
  rw [← getElem?_touch_self]
  cases a with
  | destroy keys => simp [Action.key?] at h
  | acquire =>
    obtain rfl := Option.some.inj h
    dsimp only [perform, acquire, Action.effect]
    rcases (k.touch now _).entries[_]? with _ | e <;> rfl
  | reenter _ start =>
    obtain rfl := Option.some.inj h
    dsimp only [perform, extend, Action.effect]
    rcases (k.touch now _).entries[_]? with _ | ⟨token | items | set, t⟩
    · rfl
    · by_cases owns : startsWith token start <;> simp [Action.extension, owns]
    · rfl
    · rfl
  | renew _ token =>
    obtain rfl := Option.some.inj h
    dsimp only [perform, extend, Action.effect]
    rcases (k.touch now _).entries[_]? with _ | ⟨holder | items | set, t⟩
    · rfl
    · by_cases owns : holder = token <;> simp [Action.extension, owns]
    · rfl
    · rfl
  | release _ token =>
    obtain rfl := Option.some.inj h
    dsimp only [perform, release, Action.effect]
    rcases (k.touch now _).entries[_]? with _ | ⟨holder | items | set, t⟩
    · rfl
    · by_cases owns : holder = token <;> simp [owns]
    · rfl
    · rfl
  | owner =>
    obtain rfl := Option.some.inj h
    dsimp only [perform, owner, Action.effect]
    rcases (k.touch now _).entries[_]? with _ | ⟨token | items | set, t⟩ <;> rfl
  | push =>
    obtain rfl := Option.some.inj h
    dsimp only [perform, push, Action.effect]
    rcases (k.touch now _).entries[_]? with _ | ⟨token | items | set, t⟩ <;> rfl
  | pop =>
    obtain rfl := Option.some.inj h
    dsimp only [perform, pop, Action.effect]
    rcases (k.touch now _).entries[_]? with _ | ⟨token | items | set, t⟩ <;>
      simp
  | len =>
    obtain rfl := Option.some.inj h
    dsimp only [perform, len, Action.effect]
    rcases (k.touch now _).entries[_]? with _ | ⟨token | items | set, t⟩ <;> rfl
  | delayedPush =>
    obtain rfl := Option.some.inj h
    dsimp only [perform, delayedPush, Action.effect]
    rcases (k.touch now _).entries[_]? with _ | ⟨token | items | set, t⟩ <;> rfl
  | delayedPop _ limit =>
    obtain rfl := Option.some.inj h
    dsimp only [perform, delayedPop, Action.effect]
    rcases (k.touch now _).entries[_]? with _ | ⟨token | items | set, t⟩
    · rfl
    · rfl
    · rfl
    · dsimp only
      rcases Option.filter _ set.first? with _ | slot <;> simp
  | delayedRemove =>
    obtain rfl := Option.some.inj h
    dsimp only [perform, delayedRemove, Action.effect]
    rcases (k.touch now _).entries[_]? with _ | ⟨token | items | set, t⟩ <;>
      simp
  | delayedLen =>
    obtain rfl := Option.some.inj h
    dsimp only [perform, delayedLen, Action.effect]
    rcases (k.touch now _).entries[_]? with _ | ⟨token | items | set, t⟩ <;> rfl

/-! ## What clients see -/

/-- What is live later is what is live now and has not expired since. -/
theorem live?_later (k : Keyspace) (key : String) {t t' : Nat} (le : t ≤ t') :
    k.live? t' key = (k.live? t key).filter fun e => !e.isExpired t' := by
  unfold live?
  rw [Option.filter_filter]
  congr 1
  funext e
  by_cases expired : e.isExpired t
  · simp [Entry.isExpired_of_le le expired]
  · simp [expired]

/-- What shows the same now shows the same later. -/
theorem live?_congr_later {k k' : Keyspace} {key : String} {t t' : Nat}
    (same : k.live? t key = k'.live? t key) (le : t ≤ t') : k.live? t' key = k'.live? t' key := by
  rw [k.live?_later key le, k'.live?_later key le, same]

theorem live?_change (k : Keyspace) (t : Nat) (key other : String) (c : Change) :
    (k.change key c).live? t other =
      if key = other then (c.on (k.live? t key)).filter fun e => !e.isExpired t
      else k.live? t other := by
  cases c with
  | keep =>
    split
    · next same =>
      subst same
      simp [live?, Option.filter_filter]
    · rfl
  | put e => simp [live?_put]
  | drop => simp [live?_delete]

/-- What clients see after an action on one key. -/
theorem live?_perform (k : Keyspace) (now : Nat) {a : Action} {key : String}
    (h : a.key? = some key) (other : String) :
    (k.perform now a).2.live? now other =
      if key = other then
        ((a.effect now (k.live? now key)).2.on (k.live? now key)).filter fun e => !e.isExpired now
      else k.live? now other := by
  rw [perform_eq k now h, live?_change, live?_touch, live?_touch]

theorem getElem?_destroy (now : Nat) (key : String) : ∀ (keys : List String) (k : Keyspace),
    (destroy now keys k).2.entries[key]? = if key ∈ keys then none else k.entries[key]?
  | [], k => by simp [destroy]
  | first :: keys, k => by
    rw [destroy, getElem?_destroy now key keys]
    by_cases same : first = key
    · subst same
      simp [delete]
    · simp [delete, Std.TreeMap.getElem?_erase, same, Ne.symm same, getElem?_touch_of_ne]

theorem live?_destroy (now t : Nat) (key : String) (keys : List String) (k : Keyspace) :
    (destroy now keys k).2.live? t key = if key ∈ keys then none else k.live? t key := by
  unfold live?
  rw [getElem?_destroy]
  split <;> simp

end Keyspace

/-! ## Requests that are understood -/

/-- A number that fits 64 bits is read as an integer. -/
theorem Request.int_of_le {r : Request} {index n : Nat}
    (arg : r.args[index]? = some (Text.Decimal.ofNat n)) (fits : n ≤ 9223372036854775807) :
    r.int index = .ok n :=
  int_eq_ok_iff.2 ⟨_, arg, Text.Decimal.readInt64?_ofNat n fits⟩

/-- A number that does not fit 64 bits is refused. -/
theorem Request.int_of_lt {r : Request} {index n : Nat}
    (arg : r.args[index]? = some (Text.Decimal.ofNat n)) (large : 9223372036854775807 < n) :
    r.int index = .error (.invalidArgument r.script.name
      (Text.quoted (Text.Decimal.ofNat n) ++ " is not an integer")) := by
  simp [int, Request.arg, arg, Text.Decimal.readInt64?_ofNat_of_lt large, bind, Except.bind]

/-- A positive number of milliseconds that fits 64 bits is read as a lease. -/
theorem Request.lease_of_le {r : Request} {index n : Nat}
    (arg : r.args[index]? = some (Text.Decimal.ofNat n)) (positive : 1 ≤ n)
    (fits : n ≤ 9223372036854775807) : r.lease index = .ok (Time.ofMillis n) :=
  lease_eq_ok_iff.2 ⟨n, int_of_le arg fits, Int.natCast_pos.2 positive, rfl⟩

/-- A lease that does not fit 64 bits is refused. -/
theorem Request.lease_of_lt {r : Request} {index n : Nat}
    (arg : r.args[index]? = some (Text.Decimal.ofNat n)) (large : 9223372036854775807 < n) :
    r.lease index = .error (.invalidArgument r.script.name
      (Text.quoted (Text.Decimal.ofNat n) ++ " is not an integer")) := by
  simp [lease, int_of_lt arg large, bind, Except.bind]

theorem Action.ofRequest_request (c : Command) (keys args : List String) :
    ofRequest (c.request keys args) = ofCommand (c.request keys args) c := by
  simp [ofRequest, Command.request, Command.script, Command.ofName?_name]

/-! ## The keys that are named -/

namespace Action

/-- The keys that an action works on. -/
def keys : Action → List String
  | destroy keys => keys
  | a => a.key?.toList

theorem keys_of_key? {a : Action} {key : String} (h : a.key? = some key) : a.keys = [key] := by
  cases a <;> simp_all [keys, key?]

/-- An action works on keys that its request names. -/
theorem mem_keys_of_ofRequest {r : Request} {a : Action} {key : String}
    (h : ofRequest r = .ok a) (mem : key ∈ a.keys) : key ∈ r.keys := by
  have asked := (ofRequest_eq_ok_iff.1 h).2
  generalize a.command = c at asked
  cases c with
  | destroy =>
    obtain rfl := Except.ok.inj asked
    exact mem
  | _ =>
    -- every other command begins with its key
    obtain ⟨first, named, asked⟩ := bind_eq_ok_iff.1 asked
    have named := List.mem_of_getElem? (Request.key_eq_ok_iff.1 named)
    simp only [bind_eq_ok_iff, pure_eq_ok_iff] at asked
    first
      | obtain rfl := asked
      | obtain ⟨_, _, rfl⟩ := asked
      | obtain ⟨_, _, _, _, rfl⟩ := asked
    simp only [keys, key?, Option.toList_some, List.mem_singleton] at mem
    rwa [mem]

end Action

namespace Keyspace

section Evaluation

variable {r : Request} {a : Action} {key : String} (k : Keyspace) (now : Nat)

theorem eval_of_ok (h : Action.ofRequest r = .ok a) :
    k.eval now r = (k.tick now).perform now a := by
  simp [eval, h]

theorem eval_of_error {e : StoreError} (h : Action.ofRequest r = .error e) :
    k.eval now r = (.error e, k.tick now) := by
  simp [eval, h]

/-- What a request on one key is answered. -/
theorem fst_eval (h : Action.ofRequest r = .ok a) (named : a.key? = some key) :
    (k.eval now r).1 = (a.effect now (k.live? now key)).1 := by
  rw [eval_of_ok k now h, perform_eq _ now named, live?_tick]

/-- What clients see after a request on one key. -/
theorem live?_eval (h : Action.ofRequest r = .ok a) (named : a.key? = some key) (other : String) :
    (k.eval now r).2.live? now other =
      if key = other then
        ((a.effect now (k.live? now key)).2.on (k.live? now key)).filter fun e => !e.isExpired now
      else k.live? now other := by
  rw [eval_of_ok k now h, live?_perform _ now named, live?_tick, live?_tick]

end Evaluation

/-- What an evaluation can do to a key : an action on it makes the change that suits what is
live there, a deletion that names it takes it out, and every other request leaves it as
clients see it. -/
theorem eval_cases (k : Keyspace) (now : Nat) (r : Request) (key : String) :
    (∃ a, Action.ofRequest r = .ok a ∧ a.key? = some key ∧
      (k.eval now r).1 = (a.effect now (k.live? now key)).1 ∧
      (k.eval now r).2.live? now key =
        ((a.effect now (k.live? now key)).2.on (k.live? now key)).filter
          fun e => !e.isExpired now) ∨
    (∃ keys, Action.ofRequest r = .ok (.destroy keys) ∧ key ∈ keys ∧
      (k.eval now r).2.live? now key = none) ∨
    ((∀ a, Action.ofRequest r = .ok a → key ∉ a.keys) ∧
      (k.eval now r).2.live? now key = k.live? now key) := by
  cases asked : Action.ofRequest r with
  | error e =>
    refine .inr (.inr ⟨by simp, ?_⟩)
    rw [eval_of_error k now asked, live?_tick]
  | ok a =>
    cases named : a.key? with
    | some first =>
      by_cases here : first = key
      · subst here
        refine .inl ⟨a, rfl, named, fst_eval k now asked named, ?_⟩
        rw [live?_eval k now asked named, if_pos rfl]
      · refine .inr (.inr ⟨?_, ?_⟩)
        · intro a' same
          obtain rfl := Except.ok.inj same
          simpa [Action.keys_of_key? named] using Ne.symm here
        · rw [live?_eval k now asked named, if_neg here]
    | none =>
      cases a with
      | destroy keys =>
        rw [eval_of_ok k now asked, perform, live?_destroy]
        by_cases mem : key ∈ keys
        · exact .inr (.inl ⟨keys, rfl, mem, if_pos mem⟩)
        · refine .inr (.inr ⟨?_, by rw [if_neg mem, live?_tick]⟩)
          intro a' same
          obtain rfl := Except.ok.inj same
          exact mem
      | _ => cases named

/-- An evaluation that fails leaves every key as clients see it. -/
theorem live?_eval_of_error {k : Keyspace} {now : Nat} {r : Request} {e : StoreError}
    (failed : (k.eval now r).1 = .error e) (key : String) :
    (k.eval now r).2.live? now key = k.live? now key := by
  rcases k.eval_cases now r key with
    ⟨a, asked, named, answered, shown⟩ | ⟨keys, asked, -⟩ | ⟨-, kept⟩
  · rw [shown, Action.effect_of_error (answered.symm.trans failed), Change.on_keep]
    exact (k.live?_later key (Nat.le_refl now)).symm
  · rw [eval_of_ok k now asked] at failed
    cases failed
  · exact kept

/-- An evaluation that does not name a key leaves it as clients see it. -/
theorem live?_eval_of_notMem (k : Keyspace) (now : Nat) {r : Request} {key : String}
    (h : key ∉ r.keys) : (k.eval now r).2.live? now key = k.live? now key := by
  rcases k.eval_cases now r key with ⟨a, asked, named, -⟩ | ⟨keys, asked, mem, -⟩ | ⟨-, kept⟩
  · refine absurd (Action.mem_keys_of_ofRequest asked ?_) h
    simp [Action.keys_of_key? named]
  · exact absurd (Action.mem_keys_of_ofRequest asked mem) h
  · exact kept

/-- Asking for the token in a key changes nothing that clients see. -/
theorem live?_eval_of_owner (k : Keyspace) (now : Nat) {r : Request}
    (h : Command.ofName? r.script.name = some .owner) (key : String) :
    (k.eval now r).2.live? now key = k.live? now key := by
  have asked : Action.ofRequest r = r.key 0 >>= fun first => .ok (.owner first) := by
    simp only [Action.ofRequest, h]
    rfl
  cases first : r.key 0 with
  | error e =>
    rw [first] at asked
    rw [eval_of_error k now asked, live?_tick]
  | ok first' =>
    rw [first] at asked
    have kept : ((Action.owner first').effect now (k.live? now first')).2 = .keep := by
      rcases k.live? now first' with _ | ⟨_ | _ | _, _⟩ <;> rfl
    rw [live?_eval k now asked rfl, kept]
    split
    · next same =>
      subst same
      exact (k.live?_later first' (Nat.le_refl now)).symm
    · rfl

end Keyspace

end Turnstile
