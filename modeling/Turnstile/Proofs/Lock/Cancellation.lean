import Turnstile.Proofs.Lock.Diary
import Turnstile.Proofs.Lock.Schedule

/-!
# Cancelling a wait

A wait looks at its cancel flag before each of its rounds and before its last attempt, and at no
other time (`Handle.looks`). Up to a look that finds the flag set it goes the way of a wait that
cannot be cancelled (`Handle.Rounds.waitFrom_eq`), and there it ends.

`cancelled_wait` : if every look finds the flag clear, a wait that can be cancelled is one that
cannot. Else it is interrupted, and all it has done is the rounds before the first look that finds
the flag set. The diary of the wait shows this for its questions, its sleeps and all it does to the
flags and the log of its handle.
-/

namespace Turnstile.Lock

variable {σ : Type}

/-- Whether a deed is a sleep. -/
def Deed.isSleep : Deed → Bool
  | slept .. => true
  | _ => false

namespace Handle

variable {env : Surroundings σ} {h : Handle} {isCancelled : σ → Bool} {limit elapsed elapsed' : Nat}
  {s s' : σ} {rounds : List (Round σ)}

/-- What a wait looks at its cancel flag in : the surroundings before each of its rounds, and those
before its last attempt. -/
def looks (rounds : List (Round σ)) (last : σ) : List σ := rounds.map Round.before ++ [last]

/-- As long as it is not cancelled, a wait goes on from its rounds. -/
theorem Rounds.waitFrom_eq (goes : h.Rounds env limit elapsed s rounds elapsed' s')
    (calm : ∀ r ∈ rounds, isCancelled r.before = false) :
    h.waitFrom env isCancelled limit elapsed s = h.waitFrom env isCancelled limit elapsed' s' := by
  induction goes with
  | nil => rfl
  | cons ran left pauses slept rest ih =>
    obtain ⟨first, calm⟩ := List.forall_mem_cons.1 calm
    rw [waitFrom_of_refused (Bool.eq_false_iff.1 first) ran (Nat.not_le_of_lt left), ← pauses]
    simp only [slept]
    exact ih calm

/-- The rounds before a look lead to it. -/
theorem Rounds.take (goes : h.Rounds env limit elapsed s rounds elapsed' s') {i : Nat} {q : σ}
    (look : (looks rounds s')[i]? = some q) :
    ∃ elapsed₁, h.Rounds env limit elapsed s (rounds.take i) elapsed₁ q := by
  induction goes generalizing i with
  | nil =>
    cases i with
    | zero =>
      obtain rfl := Option.some.inj look
      exact ⟨_, .nil⟩
    | succ i => cases look
  | cons ran left pauses slept rest ih =>
    cases i with
    | zero =>
      obtain rfl := Option.some.inj look
      exact ⟨_, .nil⟩
    | succ i =>
      obtain ⟨elapsed₁, before⟩ := ih look
      exact ⟨elapsed₁, .cons ran left pauses slept before⟩

theorem getElem?_looks {r : Round σ} {i : Nat} (round : rounds[i]? = some r) :
    (looks rounds s')[i]? = some r.before := by
  rw [looks, List.getElem?_append_left, List.getElem?_map, round]
  · rfl
  · rw [List.length_map]
    exact (List.getElem?_eq_some_iff.1 round).1

/-- A wait is interrupted at the first look that finds it cancelled. -/
theorem Rounds.interrupted (goes : h.Rounds env limit elapsed s rounds elapsed' s') {i : Nat}
    (first : (looks rounds s').findIdx? isCancelled = some i) :
    ∃ elapsed₁ q, (looks rounds s')[i]? = some q ∧
      h.Rounds env limit elapsed s (rounds.take i) elapsed₁ q ∧
      h.waitFrom env isCancelled limit elapsed s = (.error (.interrupted h.key), q) := by
  obtain ⟨short, cancelled, calm⟩ := List.findIdx?_eq_some_iff_getElem.1 first
  have look := List.getElem?_eq_getElem short
  obtain ⟨elapsed₁, before⟩ := goes.take look
  refine ⟨elapsed₁, _, look, before, ?_⟩
  rw [before.waitFrom_eq, waitFrom_of_cancelled cancelled]
  intro r mem
  obtain ⟨j, early, round⟩ := List.mem_take_iff_getElem.1 mem
  have earlier : (looks rounds s')[j]? = some r.before :=
    getElem?_looks (List.getElem?_eq_some_iff.2 ⟨_, round⟩)
  have clear := calm j (by omega)
  rw [(List.getElem?_eq_some_iff.1 earlier).2] at clear
  exact Bool.eq_false_iff.2 clear

/-! ## In the diary -/

/-- How often a diary tells of a sleep. -/
def naps (deeds : List Deed) : Nat := deeds.countP Deed.isSleep

/-- A call does not sleep. -/
theorem naps_run {call : Call} {p p' : σ × List Deed} {result : Except StoreError Bool} {took : Nat}
    (ran : h.run env.recorded call p = (result, took, p')) : naps p'.2 = naps p.2 := by
  have quiet (m : Move) (q : σ × List Deed) :
      naps (env.recorded.commit m.hold m.events q).2 = naps q.2 := by
    simp [Surroundings.recorded, naps, Deed.isSleep]
  refine follow_induction (P := fun _ q => naps q.2 = naps p.2)
    (Q := fun _ q => naps q.2 = naps p.2) ?asked ?finished rfl ran
  case asked =>
    rintro m stage q answer took q' same - ask
    rw [← same, ← quiet m q]
    obtain ⟨-, -, rfl⟩ := ask
    simp [naps, Deed.isSleep]
  case finished =>
    rintro m result q same -
    exact (quiet m q).trans same

/-- At each look a wait has slept once more than at the one before. -/
theorem Rounds.naps_looks {p p' : σ × List Deed} {rounds : List (Round (σ × List Deed))}
    (goes : h.Rounds env.recorded limit elapsed p rounds elapsed' p') :
    (looks rounds p').map (naps ·.2) = List.range' (naps p.2) (rounds.length + 1) := by
  induction goes with
  | nil => rfl
  | @cons elapsed took pause late elapsed' p p₁ p₂ p' rounds ran left pauses slept rest ih =>
    have once : naps p₂.2 = naps p.2 + 1 := by
      obtain ⟨-, rfl⟩ := slept
      rw [← naps_run ran]
      simp [naps, Deed.isSleep]
    rw [once] at ih
    rw [List.length_cons, List.range'_succ, ← ih]
    rfl

end Handle

/-- A wait that can be cancelled, in whatever surroundings and however long it may be. The flag is
looked at in surroundings that keep a diary, and before the n-th round the diary tells of just n - 1
sleeps, so the flag may have any history. The wait that cannot be cancelled goes through some
rounds, in each of which an attempt is refused, to its last attempt. It does so with or without a
diary.

If each look of this wait would find the flag clear, the wait that can be cancelled has the same
result, and leaves the same surroundings and the same diary. Else it is interrupted, and what it
leaves is what the rounds before the first look that finds the flag set have left : nothing has
been done if this is the first look of all. -/
theorem cancelled_wait {σ : Type} (env : Surroundings σ) (h : Handle) (limit : Nat)
    (isCancelled : σ × List Deed → Bool) (s : σ) :
    ∃ rounds elapsed last result took p',
      h.Rounds env.recorded limit 0 (s, []) rounds elapsed last ∧
      h.run env.recorded .tryLock last = (result, took, p') ∧
      h.tryLockFor env.recorded limit (s, []) = (result.mapError .store, p') ∧
      h.tryLockFor env limit s = (result.mapError .store, p'.1) ∧
      (Handle.looks rounds last).map (fun p => Handle.naps p.2) = List.range (rounds.length + 1) ∧
      match (Handle.looks rounds last).findIdx? isCancelled with
      | none =>
        h.tryLockInterruptibly env.recorded isCancelled limit (s, []) =
          h.tryLockFor env.recorded limit (s, [])
      | some i =>
        ∃ elapsed₁ p, (Handle.looks rounds last)[i]? = some p ∧
          h.Rounds env.recorded limit 0 (s, []) (rounds.take i) elapsed₁ p ∧
          h.tryLockInterruptibly env.recorded isCancelled limit (s, []) =
            (.error (.interrupted h.key), p) := by
  obtain ⟨result, p', waited, rounds, elapsed, last, took, goes, ran, schedule⟩ :=
    h.keepsSchedule env.recorded limit (s, [])
  refine ⟨rounds, elapsed, last, result, took, p', goes, ran, waited, ?plain, ?naps, ?cancelled⟩
  case plain =>
    obtain ⟨deeds, recorded⟩ := h.waitFrom_recorded env (fun _ => false) limit 0 s []
    obtain ⟨same, rfl⟩ := Prod.mk.inj (recorded.symm.trans waited)
    exact Prod.ext same rfl
  case naps => exact goes.naps_looks.trans List.range_eq_range'.symm
  case cancelled =>
    split
    · next calm =>
      have clear := List.findIdx?_eq_none_iff.1 calm
      have calm' : ∀ r ∈ rounds, isCancelled r.before = false := fun r mem =>
        clear _ (List.mem_append_left _ (List.mem_map_of_mem mem))
      have last' : isCancelled last = false :=
        clear _ (List.mem_append_right _ (List.mem_singleton_self _))
      rw [waited, Handle.tryLockInterruptibly, goes.waitFrom_eq calm']
      exact Handle.waitFrom_of_run (Bool.eq_false_iff.1 last') ran schedule.refused
    · next i first => exact goes.interrupted first

end Turnstile.Lock
