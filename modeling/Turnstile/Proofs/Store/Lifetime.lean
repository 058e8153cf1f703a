import Mathlib.Data.List.MinMax
import Mathlib.Order.Nat
import Turnstile.Proofs.Store.Sound

/-!
# How long an entry can stay

An entry that is stored was put there by an action on its key, at some access of the past
(`Keyspace.stored_access`). Of the actions only those on locks put tokens, and they do so for one
lease (`Action.Puts`). So the expiry of a token is the time of an access that named its key plus
the lease of that access (`Keyspace.dated_replay`). A lock that nobody asks for any more is
therefore gone, at the latest, one largest lease after the last request for it
(`Keyspace.abandoned`).

`stored_entries` has all that is true of what is stored after a run of accesses.
-/

namespace Turnstile

/-- The lease that an action asks for, if it does. -/
def Action.lease? : Action → Option Nat
  | acquire _ _ lease | reenter _ _ lease | renew _ _ lease => some lease
  | _ => none

namespace Access

/-- The lease that an access asks for, or zero. A malformed request asks for none. -/
def lease : Access → Nat
  | eval r =>
    match Action.ofRequest r with
    | .ok a => a.lease?.getD 0
    | .error _ => 0
  | _ => 0

/-- Whether an access is a request that names a key. -/
def Asks (key : String) : Access → Prop
  | eval r => key ∈ r.keys
  | _ => False

end Access

/-- The largest lease that an access of a run asks for. -/
def longestLease (run : List (Nat × Access)) : Nat := (run.map (·.2.lease)).foldr max 0

theorem lease_le_longestLease {run : List (Nat × Access)} {x : Nat × Access} (h : x ∈ run) :
    x.2.lease ≤ longestLease run :=
  List.le_max_of_le (List.mem_map_of_mem (f := fun x => x.2.lease) h) le_rfl

theorem Change.eq_of_store_eq_put {e e' : Entry} (h : store e = .put e') : e = e' := by
  unfold store at h
  split at h
  · cases h
  · exact Change.put.inj h

namespace Action

/-- A lease that a request asks for is not empty. -/
theorem lease_pos {r : Request} {a : Action} {lease : Nat} (asked : ofRequest r = .ok a)
    (h : a.lease? = some lease) : 0 < lease := by
  have positive {index : Nat} (read : r.lease index = .ok lease) : 0 < lease := by
    obtain ⟨n, -, positive, rfl⟩ := Request.lease_eq_ok_iff.1 read
    unfold Time.ofMillis Time.millisecond
    omega
  cases a with
  | acquire =>
    obtain rfl := Option.some.inj h
    exact positive (ofRequest_eq_acquire_iff.1 asked).2.2.2
  | reenter =>
    obtain rfl := Option.some.inj h
    exact positive (ofRequest_eq_reenter_iff.1 asked).2.2.2
  | renew =>
    obtain rfl := Option.some.inj h
    exact positive (ofRequest_eq_renew_iff.1 asked).2.2.2
  | _ => cases h

/-- What an action can put on its key, as to tokens, scores and expiries, where `live` is what is
live there. -/
inductive Puts (now : Nat) (live : Option Entry) : Action → Entry → Prop
  /-- A token is put for the lease that the action asks for. -/
  | token {a : Action} {token : String} {lease : Nat} (asks : a.lease? = some lease) :
    Puts now live a ⟨.text token, some (now + lease)⟩
  /-- A list keeps its expiry, and a new one has none. -/
  | list {a : Action} {items : List String} {t : Option Nat}
    (held : t = none ∨ ∃ before, live = some ⟨.list before, t⟩) : Puts now live a ⟨.list items, t⟩
  /-- A payload gets a score, in the set that is there or in a new one. -/
  | scored {key payload : String} {score : Int} {before : SortedSet} {t : Option Nat}
    (held : before = {} ∧ t = none ∨ live = some ⟨.sorted before, t⟩) :
    Puts now live (.delayedPush key payload score) ⟨.sorted (before.insert payload score), t⟩
  | erased {a : Action} {payload : String} {before : SortedSet} {t : Option Nat}
    (held : live = some ⟨.sorted before, t⟩) : Puts now live a ⟨.sorted (before.erase payload), t⟩
  | kept {a : Action} {before : SortedSet} {t : Option Nat}
    (held : live = some ⟨.sorted before, t⟩) : Puts now live a ⟨.sorted before, t⟩

theorem puts_of_extension {a : Action} {now lease : Nat} {live : Option Entry} {e : Entry}
    (asks : a.lease? = some lease) {owns : String → Bool} {key : String}
    (h : (extension owns key (now + lease) live).2 = .put e) : a.Puts now live e := by
  unfold extension at h
  split at h
  · cases h
  · split at h
    · cases h
      exact .token asks
    · cases h
  · cases h

theorem puts_of_effect {a : Action} {now : Nat} {live : Option Entry} {e : Entry}
    (h : (a.effect now live).2 = .put e) : a.Puts now live e := by
  cases a with
  | reenter => exact puts_of_extension rfl h
  | renew => exact puts_of_extension rfl h
  | destroy => cases h
  | acquire =>
    rcases live with _ | ⟨_ | _ | _, _⟩ <;> cases h
    exact .token rfl
  | owner | len | delayedLen => rcases live with _ | ⟨_ | _ | _, _⟩ <;> cases h
  | push =>
    rcases live with _ | ⟨_ | _ | _, _⟩ <;> cases h
    · exact .list (.inl rfl)
    · exact .list (.inr ⟨_, rfl⟩)
  | release =>
    rcases live with _ | ⟨_ | _ | _, _⟩ <;> unfold effect at h <;> dsimp only at h
    · cases h
    · split at h <;> cases h
    · cases h
    · cases h
  | pop =>
    rcases live with _ | ⟨_ | _ | _, _⟩
    · cases h
    · cases h
    · cases Change.eq_of_store_eq_put h
      exact .list (.inr ⟨_, rfl⟩)
    · cases h
  | delayedPush =>
    rcases live with _ | ⟨_ | _ | _, _⟩ <;> cases h
    · exact .scored (.inl ⟨rfl, rfl⟩)
    · exact .scored (.inr rfl)
  | delayedPop =>
    rcases live with _ | ⟨_ | _ | _, _⟩
    · cases h
    · cases h
    · cases h
    · unfold effect at h
      dsimp only at h
      split at h <;> cases Change.eq_of_store_eq_put h
      · exact .erased rfl
      · exact .kept rfl
  | delayedRemove =>
    rcases live with _ | ⟨_ | _ | _, _⟩
    · cases h
    · cases h
    · cases h
    · cases Change.eq_of_store_eq_put h
      exact .erased rfl

end Action

namespace Keyspace

/-! ## Where an entry comes from -/

variable {k : Keyspace} {key : String} {e : Entry}

theorem stored_touch {now : Nat} {other : String} (h : (k.touch now other).entries[key]? = some e) :
    k.entries[key]? = some e := by
  by_cases same : other = key
  · subst same
    rw [getElem?_touch_self] at h
    exact (Option.filter_eq_some_iff.1 h).1
  · rwa [getElem?_touch_of_ne k now same] at h

theorem stored_tick {now : Nat} (h : (k.tick now).entries[key]? = some e) :
    k.entries[key]? = some e := by
  unfold tick at h
  dsimp only at h
  split at h
  · rw [sweep, Std.TreeMap.getElem?_filter'] at h
    exact (Option.filter_eq_some_iff.1 h).1
  · exact h

theorem stored_change {other : String} {c : Change}
    (h : (k.change other c).entries[key]? = some e) :
    k.entries[key]? = some e ∨ other = key ∧ c = .put e := by
  cases c with
  | keep => exact .inl h
  | put e' =>
    rw [change_put, put, Std.TreeMap.getElem?_insert] at h
    split at h
    · next same =>
      obtain rfl := Option.some.inj h
      exact .inr ⟨by simpa using same, rfl⟩
    · exact .inl h
  | drop =>
    rw [change_drop, delete, Std.TreeMap.getElem?_erase] at h
    split at h
    · cases h
    · exact .inl h

/-- What is stored after an evaluation was there before, or is what an action on its key puts. -/
theorem put_of_stored_eval {now : Nat} {r : Request}
    (h : (k.eval now r).2.entries[key]? = some e) :
    k.entries[key]? = some e ∨ ∃ a, Action.ofRequest r = .ok a ∧ a.key? = some key ∧
      (a.effect now (k.live? now key)).2 = .put e := by
  cases asked : Action.ofRequest r with
  | error _ =>
    rw [eval_of_error k now asked] at h
    exact .inl (stored_tick h)
  | ok a =>
    rw [eval_of_ok k now asked] at h
    cases named : a.key? with
    | some first =>
      rw [perform_eq _ now named, live?_tick] at h
      rcases stored_change h with kept | ⟨rfl, put⟩
      · exact .inl (stored_tick (stored_touch kept))
      · exact .inr ⟨a, rfl, named, put⟩
    | none =>
      cases a with
      | destroy keys =>
        rw [perform, getElem?_destroy] at h
        split at h
        · cases h
        · exact .inl (stored_tick h)
      | _ => cases named

/-- What is stored after an evaluation was there before, or an action on its key has put it. -/
theorem stored_eval {now : Nat} {r : Request} (h : (k.eval now r).2.entries[key]? = some e) :
    k.entries[key]? = some e ∨
      ∃ a, Action.ofRequest r = .ok a ∧ a.key? = some key ∧ a.Puts now (k.live? now key) e := by
  rcases put_of_stored_eval h with kept | ⟨a, asked, named, put⟩
  · exact .inl kept
  · exact .inr ⟨a, asked, named, Action.puts_of_effect put⟩

/-- What is stored after an access was there before, or a request on its key has put it. A token
is put for the lease of the request. -/
theorem stored_access {now : Nat} {x : Access} (h : (k.access now x).2.entries[key]? = some e) :
    k.entries[key]? = some e ∨
      x.Asks key ∧ ∀ token expiry, e = ⟨.text token, expiry⟩ → expiry = some (now + x.lease) := by
  cases x with
  | eval r =>
    rcases stored_eval h with kept | ⟨a, asked, named, puts⟩
    · exact .inl kept
    · refine .inr ⟨Action.mem_keys_of_ofRequest asked (by simp [Action.keys_of_key? named]), ?_⟩
      rintro token expiry rfl
      cases puts with
      | token asks => simp [Access.lease, asked, asks]
  | contains other => exact .inl (stored_touch h)
  | timeLeft other => exact .inl (stored_touch h)
  | clear => simp [access, clear] at h

/-! ## Tokens and their leases -/

/-- Every token expires one lease after an access that named its key. -/
theorem dated_replay (run : List (Nat × Access)) {key token : String} {expiry : Option Nat}
    (h : (replay access run {}).2.entries[key]? = some ⟨.text token, expiry⟩) :
    ∃ x ∈ run, x.2.Asks key ∧ expiry = some (x.1 + x.2.lease) := by
  induction run using List.reverseRecOn with
  | nil => simp [replay] at h
  | append_singleton run x ih =>
    rw [replay_concat] at h
    rcases stored_access h with kept | ⟨asks, dated⟩
    · obtain ⟨y, mem, asks, dated⟩ := ih kept
      exact ⟨y, List.mem_append_left _ mem, asks, dated⟩
    · exact ⟨x, by simp, asks, dated token expiry rfl⟩

/-- Accesses that do not ask for a key put nothing under it. -/
theorem stored_of_not_asks {run : List (Nat × Access)} (others : ∀ x ∈ run, ¬x.2.Asks key)
    (h : (replay access run k).2.entries[key]? = some e) : k.entries[key]? = some e := by
  induction run generalizing k with
  | nil => exact h
  | cons x run ih =>
    rw [List.forall_mem_cons] at others
    rcases stored_access (ih others.2 h) with kept | ⟨asks, -⟩
    · exact kept
    · exact absurd asks others.1

/-- A lock that nobody asks for any more is gone one largest lease after the last request. -/
theorem abandoned (before after : List (Nat × Access)) {key : String} {touched t : Nat}
    (lock : ∀ e, (replay access before {}).2.entries[key]? = some e →
      ∃ token expiry, e = ⟨.text token, expiry⟩)
    (asked : ∀ x ∈ before, x.2.Asks key → x.1 ≤ touched)
    (others : ∀ x ∈ after, ¬x.2.Asks key) (ended : touched + longestLease before ≤ t) :
    (replay access (before ++ after) {}).2.live? t key = none := by
  rw [replay_append, Option.eq_none_iff_forall_ne_some]
  intro e live
  obtain ⟨stored, fresh⟩ := Option.filter_eq_some_iff.1 live
  have stored := stored_of_not_asks others stored
  obtain ⟨token, expiry, rfl⟩ := lock e stored
  obtain ⟨x, mem, asks, rfl⟩ := dated_replay before stored
  have bound := lease_le_longestLease mem
  have last := asked x mem asks
  simp only [Entry.isExpired, Bool.not_eq_true', decide_eq_false_iff_not] at fresh
  omega

end Keyspace

/-- What is true of all that a keyspace stores, expired or not. -/
structure Keyspace.Represents (k : Keyspace) (latest : Nat) : Prop where
  /-- The two copies of a sorted set hold the same places, each payload in one of them. -/
  sorted {key : String} {set : SortedSet} {expiry : Option Nat}
    (stored : k.entries[key]? = some ⟨.sorted set, expiry⟩) :
    (∀ slot, slot ∈ set.slots ↔ set.score? slot.payload = some slot.score) ∧
      (∀ slot ∈ set.slots, ∀ other ∈ set.slots, slot.payload = other.payload → slot = other) ∧
      set.size ≠ 0 ∧ expiry = none
  /-- A list has payloads and does not expire. -/
  list {key : String} {items : List String} {expiry : Option Nat}
    (stored : k.entries[key]? = some ⟨.list items, expiry⟩) : items ≠ [] ∧ expiry = none
  /-- A token expires, and not too late. -/
  token {key token : String} {expiry : Option Nat}
    (stored : k.entries[key]? = some ⟨.text token, expiry⟩) : ∃ t, expiry = some t ∧ t ≤ latest

/-- After any run of accesses at points of time up to `now`, what is stored is well formed, and
no token stays longer than one largest lease from now. And a key that held nothing but a token
is absent one largest lease after it was last asked for, whatever else happens meanwhile. -/
theorem stored_entries (run : List (Nat × Access)) (now : Nat) (past : ∀ x ∈ run, x.1 ≤ now) :
    (replay Keyspace.access run {}).2.Represents (now + longestLease run) ∧
      ∀ (before after : List (Nat × Access)) (key : String) (touched t : Nat),
        run = before ++ after →
        (∀ e, (replay Keyspace.access before {}).2.entries[key]? = some e →
          ∃ token expiry, e = ⟨.text token, expiry⟩) →
        (∀ x ∈ before, x.2.Asks key → x.1 ≤ touched) → (∀ x ∈ after, ¬x.2.Asks key) →
        touched + longestLease before ≤ t →
        (replay Keyspace.access run {}).2.live? t key = none := by
  have sound := Keyspace.Sound.empty.replay run
  refine ⟨⟨?_, ?_, ?_⟩, ?_⟩
  · intro key set expiry stored
    cases sound key _ stored with
    | sorted agrees filled =>
      exact ⟨agrees, fun _ mem _ mem' => agrees.eq_of_payload mem mem', filled, rfl⟩
  · intro key items expiry stored
    cases sound key _ stored with
    | list filled => exact ⟨filled, rfl⟩
  · intro key token expiry stored
    obtain ⟨x, mem, -, dated⟩ := Keyspace.dated_replay run stored
    exact ⟨_, dated, Nat.add_le_add (past x mem) (lease_le_longestLease mem)⟩
  · rintro before after key touched t rfl lock asked others ended
    exact Keyspace.abandoned before after lock asked others ended

/-- A lock of 5 ms that was renewed once, for 7 ms, before its holder was gone. -/
def deserted : List (Nat × Access) :=
  [(0, .eval (Command.acquire.request ["x"] ["h:1.1:1", "5"])),
    (Time.ofMillis 1, .eval (Command.renew.request ["x"] ["h:1.1:1", "7"]))]

/-- A queue that goes on meanwhile. -/
def meanwhile : List (Nat × Access) :=
  [(Time.ofMillis 2, .eval (Command.push.request ["q"] ["a"])), (Time.ofMillis 3, .contains "x")]

theorem stored_entries_deserted :
    (∀ x ∈ deserted ++ meanwhile, x.1 ≤ Time.ofMillis 3) ∧
      (replay Keyspace.access (deserted ++ meanwhile) {}).2.Represents (Time.ofMillis 10) ∧
      (replay Keyspace.access (deserted ++ meanwhile) {}).2.live? (Time.ofMillis 8) "x" = none := by
  have past : ∀ x ∈ deserted ++ meanwhile, x.1 ≤ Time.ofMillis 3 := by decide
  have stored := stored_entries (deserted ++ meanwhile) (Time.ofMillis 3) past
  have lock : (replay Keyspace.access deserted {}).2.entries["x"]? =
      some ⟨.text "h:1.1:1", some (Time.ofMillis 8)⟩ := rfl
  refine ⟨past, stored.1, stored.2 deserted meanwhile "x" (Time.ofMillis 1) _ rfl ?_ ?_ ?_ ?_⟩
  · intro e held
    obtain rfl := Option.some.inj (lock.symm.trans held)
    exact ⟨_, _, rfl⟩
  · simp [deserted]
  · simp [meanwhile, Access.Asks, Command.request]
  · decide

end Turnstile
