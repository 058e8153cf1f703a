import Turnstile.Proofs.Store.Lifetime

/-!
# Expired entries do not pile up

An entry that has expired stays stored until its key is touched or the keyspace is swept. What an
action puts has not expired : a lease is not empty, and a collection keeps the expiry of the live
one that it is made of (`Action.Puts.unexpired`). So nothing that had expired by some point of time
comes in after it (`Keyspace.Unexpired`), and a sweep takes out what was there.

The count of evaluations wraps at a multiple of 256, so a sweep falls in every row of 256
evaluations, wherever the count stands (`Keyspace.unexpired_replay_of_due`). `swept_entries` : after
256 evaluations nothing is stored that had expired when they began.
-/

namespace Turnstile

theorem Entry.isExpired_eq_false_iff {e : Entry} {t : Nat} :
    e.isExpired t = false ↔ ∀ expiry, e.expiresAt = some expiry → t < expiry := by
  unfold isExpired
  split <;> simp_all

/-- What an action puts has not expired. -/
theorem Action.Puts.unexpired {r : Request} {a : Action} {now t : Nat} {live : Option Entry}
    {e : Entry} (puts : a.Puts now live e) (asked : Action.ofRequest r = .ok a) (le : t ≤ now)
    (fresh : ∀ e' ∈ live, e'.isExpired t = false) : e.isExpired t = false := by
  cases puts with
  | token asks =>
    have positive := lease_pos asked asks
    refine Entry.isExpired_eq_false_iff.2 fun expiry dated => ?_
    obtain rfl := Option.some.inj dated
    omega
  | list held =>
    rcases held with rfl | ⟨before, held⟩
    · rfl
    · exact (fresh _ held :)
  | scored held =>
    rcases held with ⟨-, rfl⟩ | held
    · rfl
    · exact (fresh _ held :)
  | erased held | kept held => exact (fresh _ held :)

namespace Keyspace

variable {k : Keyspace} {now t : Nat}

theorem isExpired_of_live {key : String} {e : Entry} (le : t ≤ now)
    (live : k.live? now key = some e) : e.isExpired t = false := by
  have fresh := (Option.filter_eq_some_iff.1 live).2
  refine Bool.eq_false_iff.2 fun expired => ?_
  simp [Entry.isExpired_of_le le expired] at fresh

/-- Nothing that is stored had expired by a point of time. -/
def Unexpired (k : Keyspace) (t : Nat) : Prop :=
  ∀ (key : String) (e : Entry), k.entries[key]? = some e → e.isExpired t = false

theorem unexpired_sweep (le : t ≤ now) : (k.sweep now).Unexpired t := by
  intro key e stored
  rw [sweep, Std.TreeMap.getElem?_filter'] at stored
  have fresh := (Option.filter_eq_some_iff.1 stored).2
  refine Bool.eq_false_iff.2 fun expired => ?_
  simp [Entry.isExpired_of_le le expired] at fresh

theorem unexpired_clear : k.clear.Unexpired t := by
  intro key e stored
  simp [clear] at stored

/-! ## Nothing comes in -/

namespace Unexpired

variable (unexpired : k.Unexpired t)
include unexpired

theorem tick : (k.tick now).Unexpired t :=
  fun key e stored => unexpired key e (stored_tick stored)

theorem touch (key : String) : (k.touch now key).Unexpired t :=
  fun key' e stored => unexpired key' e (stored_touch stored)

/-- A request that is carried out brings nothing in that has expired. -/
theorem perform {r : Request} {a : Action} (asked : Action.ofRequest r = .ok a) (le : t ≤ now) :
    (k.perform now a).2.Unexpired t := by
  intro key e stored
  cases named : a.key? with
  | some first =>
    rw [perform_eq k now named] at stored
    rcases stored_change stored with kept | ⟨-, put⟩
    · exact unexpired.touch first key e kept
    · exact (Action.puts_of_effect put).unexpired asked le fun e' live => isExpired_of_live le live
  | none =>
    cases a with
    | destroy keys =>
      rw [Keyspace.perform, getElem?_destroy] at stored
      split at stored
      · cases stored
      · exact unexpired key e stored
    | _ => cases named

theorem eval (le : t ≤ now) (r : Request) : (k.eval now r).2.Unexpired t := by
  cases asked : Action.ofRequest r with
  | error _ =>
    rw [eval_of_error k now asked]
    exact unexpired.tick
  | ok a =>
    rw [eval_of_ok k now asked]
    exact unexpired.tick.perform asked le

theorem access (le : t ≤ now) (x : Access) : (k.access now x).2.Unexpired t := by
  cases x with
  | eval r => exact unexpired.eval le r
  | contains key => exact unexpired.touch key
  | timeLeft key => exact unexpired.touch key
  | clear => exact unexpired_clear

theorem replay {run : List (Nat × Access)} (later : ∀ x ∈ run, t ≤ x.1) :
    (replay Keyspace.access run k).2.Unexpired t := by
  induction run generalizing k with
  | nil => exact unexpired
  | cons x run ih =>
    obtain ⟨first, later⟩ := List.forall_mem_cons.1 later
    exact ih (unexpired.access first x.2) later

end Unexpired

/-! ## A sweep is never far -/

theorem evals_touch (key : String) : (k.touch now key).evals = k.evals := by
  unfold touch
  split
  · split <;> rfl
  · rfl

theorem evals_change (key : String) (c : Change) : (k.change key c).evals = k.evals := by
  cases c <;> rfl

theorem evals_destroy (keys : List String) : (destroy now keys k).2.evals = k.evals := by
  induction keys generalizing k with
  | nil => rfl
  | cons key keys ih =>
    rw [destroy, ih]
    exact evals_touch key

theorem evals_tick : (k.tick now).evals = k.evals + 1 := by
  unfold tick
  dsimp only
  split <;> rfl

theorem evals_perform (a : Action) : (k.perform now a).2.evals = k.evals := by
  cases named : a.key? with
  | some key => rw [perform_eq k now named, evals_change, evals_touch]
  | none =>
    cases a with
    | destroy keys => exact evals_destroy keys
    | _ => cases named

/-- An evaluation counts, whatever comes of it. -/
theorem evals_eval (r : Request) : (k.eval now r).2.evals = k.evals + 1 := by
  cases asked : Action.ofRequest r with
  | error _ => rw [eval_of_error k now asked, evals_tick]
  | ok a => rw [eval_of_ok k now asked, evals_perform, evals_tick]

/-- How many evaluations there were since the count last stood at a multiple of 256. -/
def sinceSweep (k : Keyspace) : Nat := k.evals.toNat % 256

/-- The count goes on in step where its word wraps, for 256 divides all that the word can count. -/
theorem sinceSweep_of_evals {k' : Keyspace} (counted : k'.evals = k.evals + 1) :
    k'.sinceSweep = (k.sinceSweep + 1) % 256 := by
  have wraps : (k.evals + 1).toNat = (k.evals.toNat + 1) % 2 ^ 64 := UInt64.toNat_add ..
  simp only [sinceSweep, counted, wraps]
  omega

theorem sinceSweep_touch (key : String) : (k.touch now key).sinceSweep = k.sinceSweep := by
  rw [sinceSweep, evals_touch, sinceSweep]

/-- The 256th evaluation sweeps. -/
theorem unexpired_tick_of_due (le : t ≤ now) (due : k.sinceSweep = 255) :
    (k.tick now).Unexpired t := by
  have counted : (k.evals + 1) % sweepEvery = 0 := by
    have since : Keyspace.sinceSweep { k with evals := k.evals + 1 } = (k.sinceSweep + 1) % 256 :=
      sinceSweep_of_evals rfl
    rw [due] at since
    exact UInt64.toNat_inj.1 since
  unfold tick
  dsimp only
  rw [if_pos counted]
  exact unexpired_sweep le

theorem unexpired_eval_of_due (le : t ≤ now) (due : k.sinceSweep = 255) (r : Request) :
    (k.eval now r).2.Unexpired t := by
  have swept := unexpired_tick_of_due le due
  cases asked : Action.ofRequest r with
  | error _ =>
    rw [eval_of_error k now asked]
    exact swept
  | ok a =>
    rw [eval_of_ok k now asked]
    exact swept.perform asked le

end Keyspace

/-- Whether an access has the store run a request. -/
def Access.isEval : Access → Bool
  | eval _ => true
  | _ => false

/-- As soon as a run has the evaluations that lack until the next sweep, all is gone that had
expired before it. -/
theorem Keyspace.unexpired_replay_of_due (k : Keyspace) {t : Nat} {run : List (Nat × Access)}
    (later : ∀ x ∈ run, t ≤ x.1) (due : 256 ≤ k.sinceSweep + run.countP (·.2.isEval)) :
    (replay access run k).2.Unexpired t := by
  induction run generalizing k with
  | nil =>
    have short : k.sinceSweep < 256 := Nat.mod_lt _ (by decide)
    simp at due
    omega
  | cons x run ih =>
    obtain ⟨now, x⟩ := x
    obtain ⟨le, rest⟩ := List.forall_mem_cons.1 later
    cases x with
    | eval r =>
      by_cases last : k.sinceSweep = 255
      · exact (unexpired_eval_of_due le last r).replay rest
      · have short : k.sinceSweep < 256 := Nat.mod_lt _ (by decide)
        have next : (k.eval now r).2.sinceSweep = (k.sinceSweep + 1) % 256 :=
          sinceSweep_of_evals (evals_eval r)
        refine ih (k := (k.eval now r).2) rest ?_
        rw [List.countP_cons_of_pos rfl] at due
        omega
    | contains key | timeLeft key =>
      refine ih (k := k.touch now key) rest ?_
      have same : (k.touch now key).sinceSweep = k.sinceSweep := sinceSweep_touch key
      rwa [List.countP_cons_of_neg Bool.false_ne_true, ← same] at due
    | clear => exact unexpired_clear.replay rest

/-- After 256 evaluations, of whatever requests, be they answered or refused, all that is stored has
no expiry or one that is later than the time when they began. This holds in every keyspace, wherever
its count of evaluations stands, and also when keys are looked at or all is taken out meanwhile. -/
theorem swept_entries (k : Keyspace) (t : Nat) (run : List (Nat × Access))
    (later : ∀ x ∈ run, t ≤ x.1) (enough : 256 ≤ run.countP (·.2.isEval)) (key : String) (e : Entry)
    (stored : (replay Keyspace.access run k).2.entries[key]? = some e) :
    e.expiresAt = none ∨ ∃ expiry, e.expiresAt = some expiry ∧ t < expiry := by
  have unexpired := k.unexpired_replay_of_due later (Nat.le_add_left_of_le enough)
  have fresh := Entry.isExpired_eq_false_iff.1 (unexpired key e stored)
  cases dated : e.expiresAt with
  | none => exact .inl rfl
  | some expiry => exact .inr ⟨expiry, rfl, fresh expiry dated⟩

/-- A lock that has expired, in a store whose count is about to wrap. -/
def forgotten : Keyspace :=
  { Keyspace.put {} "x" ⟨.text "h:1.1:1", some 5⟩ with evals := 18446744073709551600 }

/-- Requests for the length of a list, half of which name none and are refused. -/
def lengthsAsked : List (Nat × Access) :=
  List.replicate 128 (7, .eval (Command.len.request ["q"] [])) ++
    List.replicate 128 (8, .eval (Command.len.request [] []))

theorem swept_entries_forgotten :
    (∀ x ∈ lengthsAsked, 7 ≤ x.1) ∧ 256 ≤ lengthsAsked.countP (·.2.isEval) ∧
      forgotten.entries["x"]? = some ⟨.text "h:1.1:1", some 5⟩ ∧
      ∀ (key : String) (e : Entry),
        (replay Keyspace.access lengthsAsked forgotten).2.entries[key]? = some e →
        e.expiresAt = none ∨ ∃ expiry, e.expiresAt = some expiry ∧ 7 < expiry := by
  have later : ∀ x ∈ lengthsAsked, 7 ≤ x.1 := by
    intro x mem
    rcases List.mem_append.1 mem with mem | mem <;> obtain rfl := List.eq_of_mem_replicate mem
    · exact Nat.le_refl 7
    · exact Nat.le_succ 7
  have enough : 256 ≤ lengthsAsked.countP (·.2.isEval) := by
    rw [lengthsAsked, List.countP_append, List.countP_replicate, List.countP_replicate]
    exact Nat.le_refl 256
  exact ⟨later, enough, rfl, swept_entries forgotten 7 lengthsAsked later enough⟩

end Turnstile
