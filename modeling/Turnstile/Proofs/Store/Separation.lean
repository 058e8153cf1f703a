import Mathlib.Data.Set.Function
import Turnstile.Proofs.Store.Ledger

/-!
# Keys are independent

All keys of a keyspace share one count of evaluations, so that an access to one key moves
the sweeps that all the others are under. It is still only seen through its own keys.
`shown_filter` : let every access of a run be about keys of a set or about keys outside of
it, and take accesses of the second sort out of the run. What those of the first sort show
stays the same.

A `Ledger` sweeps nothing, and shows what the keyspace shows (`Ledger.Matches.replay`). The
proof is therefore one about two ledgers that have the same entries in the set
(`Ledger.replay_filter`) : an access from outside leaves them so (`Ledger.eqOn_access`), and
one from inside shows the same of both (`Ledger.access_congr`).
-/

namespace Turnstile

namespace Access

/-- An access that is about keys of a set only. Taking everything out treats all keys
alike. -/
def Within (inside : Set String) : Access → Prop
  | eval r => ∀ key ∈ r.keys, key ∈ inside
  | contains key | timeLeft key => key ∈ inside
  | clear => True

/-- An access that is about keys outside of a set only. -/
def Avoids (inside : Set String) : Access → Prop
  | eval r => ∀ key ∈ r.keys, key ∉ inside
  | contains key | timeLeft key => key ∉ inside
  | clear => False

instance (inside : Set String) [DecidablePred (· ∈ inside)] : DecidablePred (Within inside)
  | eval r => inferInstanceAs (Decidable (∀ key ∈ r.keys, key ∈ inside))
  | contains key | timeLeft key => inferInstanceAs (Decidable (key ∈ inside))
  | clear => inferInstanceAs (Decidable True)

instance (inside : Set String) [DecidablePred (· ∈ inside)] : DecidablePred (Avoids inside)
  | eval r => inferInstanceAs (Decidable (∀ key ∈ r.keys, key ∉ inside))
  | contains key | timeLeft key => inferInstanceAs (Decidable (key ∉ inside))
  | clear => inferInstanceAs (Decidable False)

end Access

/-- The accesses of a run on a keyspace, each with what it shows. -/
def shown (run : List (Nat × Access)) (k : Keyspace) : List ((Nat × Access) × Seen) :=
  run.zip (replay Keyspace.access run k).1

theorem shown_cons (x : Nat × Access) (run : List (Nat × Access)) (k : Keyspace) :
    shown (x :: run) k = (x, (k.access x.1 x.2).1) :: shown run (k.access x.1 x.2).2 :=
  rfl

namespace Ledger

variable {inside : Set String} {s s' : Ledger} {now : Nat}

/-! ## Accesses from outside -/

theorem eqOn_change {key : String} (outside : key ∉ inside) (c : Change) :
    Set.EqOn (s.change key c) s inside := by
  intro other mem
  have ne : other ≠ key := fun same => outside (same ▸ mem)
  cases c <;> simp [change, Function.update_of_ne ne]

theorem eqOn_destroy {keys : List String} (outside : ∀ key ∈ keys, key ∉ inside) :
    Set.EqOn (destroy now keys s).2 s inside := by
  induction keys generalizing s with
  | nil => exact Set.eqOn_refl ..
  | cons key keys ih =>
    obtain ⟨first, outside⟩ := List.forall_mem_cons.1 outside
    unfold destroy
    split
    · exact (ih outside).trans (eqOn_change first .drop)
    · exact ih outside

theorem eqOn_eval {r : Request} (outside : ∀ key ∈ r.keys, key ∉ inside) :
    Set.EqOn (s.eval now r).2 s inside := by
  unfold eval
  split
  · exact Set.eqOn_refl ..
  · next a asked =>
    split
    · next key named =>
      refine eqOn_change (outside key ?_) _
      exact Action.mem_keys_of_ofRequest asked (by simp [Action.keys_of_key? named])
    · exact eqOn_destroy fun key mem => outside key (Action.mem_keys_of_ofRequest asked mem)

/-- An access from outside leaves the entries of a set. -/
theorem eqOn_access {x : Access} (outside : x.Avoids inside) :
    Set.EqOn (s.access now x).2 s inside := by
  cases x with
  | eval r => exact eqOn_eval outside
  | contains key => exact Set.eqOn_refl ..
  | timeLeft key => exact Set.eqOn_refl ..
  | clear => exact outside.elim

/-! ## Accesses from inside -/

theorem read_congr (same : Set.EqOn s s' inside) {key : String} (mem : key ∈ inside) :
    s.read now key = s'.read now key :=
  congrArg (Option.filter _) (same mem)

theorem change_congr (same : Set.EqOn s s' inside) (key : String) (c : Change) :
    Set.EqOn (s.change key c) (s'.change key c) inside := by
  intro other mem
  cases c with
  | keep => exact same mem
  | put e | drop =>
    by_cases here : other = key
    · subst here
      simp [change]
    · simp [change, Function.update_of_ne here, same mem]

variable (now) in
theorem destroy_congr (same : Set.EqOn s s' inside) {keys : List String}
    (within : ∀ key ∈ keys, key ∈ inside) :
    (destroy now keys s).1 = (destroy now keys s').1 ∧
      Set.EqOn (destroy now keys s).2 (destroy now keys s').2 inside := by
  induction keys generalizing s s' with
  | nil => exact ⟨rfl, same⟩
  | cons key keys ih =>
    obtain ⟨first, within⟩ := List.forall_mem_cons.1 within
    simp only [destroy, read_congr same first]
    split
    · obtain ⟨count, after⟩ := ih (change_congr same key .drop) within
      exact ⟨congrArg (· + 1) count, after⟩
    · exact ih same within

variable (now) in
theorem eval_congr (same : Set.EqOn s s' inside) {r : Request}
    (within : ∀ key ∈ r.keys, key ∈ inside) :
    (s.eval now r).1 = (s'.eval now r).1 ∧
      Set.EqOn (s.eval now r).2 (s'.eval now r).2 inside := by
  unfold eval
  split
  · exact ⟨rfl, same⟩
  · next a asked =>
    split
    · next key named =>
      have mem : key ∈ inside :=
        within key (Action.mem_keys_of_ofRequest asked (by simp [Action.keys_of_key? named]))
      rw [read_congr same mem]
      exact ⟨rfl, change_congr same key _⟩
    · have within : ∀ key ∈ a.keys, key ∈ inside := fun key mem =>
        within key (Action.mem_keys_of_ofRequest asked mem)
      obtain ⟨count, after⟩ := destroy_congr now same within
      exact ⟨congrArg (fun n : Nat => Except.ok (Reply.int n)) count, after⟩

variable (now) in
/-- An access from inside shows the same of ledgers with the same entries there, and leaves
them with the same. -/
theorem access_congr (same : Set.EqOn s s' inside) {x : Access} (within : x.Within inside) :
    (s.access now x).1 = (s'.access now x).1 ∧
      Set.EqOn (s.access now x).2 (s'.access now x).2 inside := by
  cases x with
  | eval r =>
    obtain ⟨answer, after⟩ := eval_congr now same within
    exact ⟨congrArg Seen.answer answer, after⟩
  | contains key | timeLeft key =>
    refine ⟨?_, same⟩
    simp only [access, read_congr same within]
  | clear => exact ⟨rfl, Set.eqOn_refl ..⟩

/-! ## Runs -/

/-- Two ledgers with the same entries in a set, the second of which lacks accesses from
outside, show the same of accesses from inside. -/
theorem replay_filter [DecidablePred (· ∈ inside)] (same : Set.EqOn s s' inside)
    {keep : Nat × Access → Bool} {run : List (Nat × Access)}
    (apart : ∀ x ∈ run, x.2.Within inside ∨ x.2.Avoids inside)
    (removed : ∀ x ∈ run, keep x = false → x.2.Avoids inside) :
    (run.zip (replay access run s).1).filter (fun y => keep y.1 ∧ y.1.2.Within inside) =
      ((run.filter keep).zip (replay access (run.filter keep) s').1).filter
        fun y => y.1.2.Within inside := by
  induction run generalizing s s' with
  | nil => rfl
  | cons x run ih =>
    obtain ⟨first, apart⟩ := List.forall_mem_cons.1 apart
    obtain ⟨gone, removed⟩ := List.forall_mem_cons.1 removed
    cases kept : keep x with
    | false =>
      have after : Set.EqOn (s.access x.1 x.2).2 s' inside := (eqOn_access (gone kept)).trans same
      simpa [replay, kept] using ih after apart removed
    | true =>
      by_cases within : x.2.Within inside
      · obtain ⟨seen, after⟩ := access_congr x.1 same within
        simpa [replay, kept, within, seen] using ih after apart removed
      · have avoids : x.2.Avoids inside := first.resolve_left within
        have after : Set.EqOn (s.access x.1 x.2).2 (s'.access x.1 x.2).2 inside :=
          ((eqOn_access avoids).trans same).trans (eqOn_access avoids).symm
        simpa [replay, kept, within] using ih after apart removed

end Ledger

/-- Every keyspace shows what the ledger of its entries shows. -/
theorem Ledger.matches_entries (now : Nat) (k : Keyspace) :
    Ledger.Matches now k fun key => k.entries[key]? :=
  fun _ => rfl

/-- Every keyspace shows what the ledger of its live entries shows. -/
theorem Ledger.matches_live (now : Nat) (k : Keyspace) : Ledger.Matches now k (k.live? now) := by
  intro key
  simp [Ledger.read, Keyspace.live?, Option.filter_filter]

/-- A request about keys of a set is answered the same by keyspaces in which the same is live
there, and the same is live there afterwards. -/
theorem Keyspace.eval_congr {inside : Set String} {now : Nat} {k k' : Keyspace}
    (same : Set.EqOn (k.live? now) (k'.live? now) inside) {r : Request}
    (within : ∀ key ∈ r.keys, key ∈ inside) :
    (k.eval now r).1 = (k'.eval now r).1 ∧
      Set.EqOn ((k.eval now r).2.live? now) ((k'.eval now r).2.live? now) inside := by
  obtain ⟨answer, shows⟩ := (Ledger.matches_live now k).eval r
  obtain ⟨answer', shows'⟩ := (Ledger.matches_live now k').eval r
  obtain ⟨alike, after⟩ := Ledger.eval_congr now same within
  refine ⟨by rw [answer, answer', alike], fun key mem => ?_⟩
  rw [shows key, shows' key, Ledger.read_congr after mem]

/-- Keys are independent. Let every access of a run be about keys of a set or about keys
outside of it, at points of time that do not go back, and let accesses from outside be
removed. Those that are left at their points of time and are about keys of the set show what
they showed before. -/
theorem shown_filter (k : Keyspace) (inside : Set String) [DecidablePred (· ∈ inside)]
    {keep : Nat × Access → Bool} {run : List (Nat × Access)}
    (ordered : run.Pairwise fun x y => x.1 ≤ y.1)
    (apart : ∀ x ∈ run, x.2.Within inside ∨ x.2.Avoids inside)
    (removed : ∀ x ∈ run, keep x = false → x.2.Avoids inside) :
    (shown run k).filter (fun y => keep y.1 ∧ y.1.2.Within inside) =
      (shown (run.filter keep) k).filter fun y => y.1.2.Within inside := by
  have shows := Ledger.matches_entries 0 k
  unfold shown
  rw [shows.replay run (fun _ _ => Nat.zero_le _) ordered,
    shows.replay (run.filter keep) (fun _ _ => Nat.zero_le _) (ordered.filter keep)]
  exact Ledger.replay_filter (Set.eqOn_refl _ _) apart removed

open scoped Classical in
/-- What accesses to keys of a set show does not depend on those to other keys. -/
theorem shown_filter_keep (k : Keyspace) (inside : Set String) {keep : Nat × Access → Bool}
    {run : List (Nat × Access)} (ordered : run.Pairwise fun x y => x.1 ≤ y.1)
    (within : ∀ x ∈ run, keep x = true → x.2.Within inside)
    (removed : ∀ x ∈ run, keep x = false → x.2.Avoids inside) :
    (shown run k).filter (fun y => keep y.1) = shown (run.filter keep) k := by
  have apart : ∀ x ∈ run, x.2.Within inside ∨ x.2.Avoids inside := fun x mem => by
    cases keeps : keep x with
    | true => exact .inl (within x mem keeps)
    | false => exact .inr (removed x mem keeps)
  have same := shown_filter k inside ordered apart removed
  have left : ∀ y ∈ shown run k,
      decide (keep y.1 = true ∧ y.1.2.Within inside) = keep y.1 := fun y mem => by
    have := within y.1 (List.of_mem_zip mem).1
    by_cases keeps : keep y.1 <;> simp_all
  have right : ∀ y ∈ shown (run.filter keep) k, decide (y.1.2.Within inside) = true :=
    fun y mem => by
      obtain ⟨mem, keeps⟩ := List.mem_filter.1 (List.of_mem_zip mem).1
      simpa using within y.1 mem keeps
  rwa [List.filter_congr left, List.filter_eq_self.2 right] at same

end Turnstile
