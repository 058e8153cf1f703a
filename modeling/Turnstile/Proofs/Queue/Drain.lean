import Mathlib.Data.Finset.Dedup
import Mathlib.Data.List.Sort
import Turnstile.Proofs.Queue.Series

/-!
# Draining a delayed queue

Payloads are put into a delayed queue, some of them more than once, and then taken out at one
clock until nothing is handed out any more. Each time the first of what is due goes
(`Waiting.Drained.cons`), and there are only so many that are due, so this comes to an end
(`exists_drains`). What was handed out by then is all that is due, in its order, and all else is
left : there is only one such list (`Waiting.Drained.unique`). As putting in leaves every payload
with its last date (`run_puts`), the list depends on the last dates alone (`delayed_drain`).
-/

namespace Turnstile

/-! ## The order of what waits -/

namespace Waiting

variable {w rest rest' : Waiting} {p p' : String} {date date' clock : Int}
  {items items' : List String}

/-- Two payloads wait, the one before the other : by their dates, and of equal dates by their
bytes. -/
def Before (w : Waiting) (p p' : String) : Prop :=
  ∃ date date', w p = some date ∧ w p' = some date' ∧
    (date < date' ∨ date = date' ∧ Text.bytes p < Text.bytes p')

theorem Before.asymm (before : w.Before p p') : ¬w.Before p' p := by
  obtain ⟨date, date', waits, waits', order⟩ := before
  rintro ⟨late, late', again', again, order'⟩
  obtain rfl := Option.some.inj (waits.symm.trans again)
  obtain rfl := Option.some.inj (waits'.symm.trans again')
  rcases order with early | ⟨same, less⟩
  · rcases order' with early' | ⟨same', -⟩ <;> omega
  · rcases order' with early' | ⟨-, less'⟩
    · omega
    · exact absurd less' (List.lt_asymm less)

instance : Std.Irrefl w.Before := ⟨fun _ before => before.asymm before⟩

instance : Std.Antisymm w.Before := ⟨fun _ _ before before' => absurd before' before.asymm⟩

/-- The first of what waits comes before all else. -/
theorem IsFirst.before (first : w.IsFirst p date) (waits : w p' = some date') (other : p' ≠ p) :
    w.Before p p' := by
  refine ⟨date, date', first.1, waits, (first.2 p' date' waits).imp_right ?_⟩
  rintro ⟨same, le⟩
  refine ⟨same, (List.le_iff_lt_or_eq.1 le).resolve_right fun equal => other ?_⟩
  have ge : Text.bytes p' ≤ Text.bytes p := equal ▸ le
  exact String.le_antisymm ((Text.le_iff_bytes_le _ _).2 ge) ((Text.le_iff_bytes_le _ _).2 le)

/-- What is handed out of what waits, and what is left, when everything is taken out that is due
at a clock. -/
structure Drained (w : Waiting) (clock : Int) (items : List String) (rest : Waiting) : Prop where
  ordered : items.Pairwise w.Before
  due : ∀ p, p ∈ items ↔ ∃ date, w p = some date ∧ date ≤ clock
  left : ∀ p, rest p = (w p).filter fun date => clock < date

namespace Drained

/-- Each payload is handed out once. -/
theorem nodup (drained : w.Drained clock items rest) : items.Nodup := by
  refine drained.ordered.imp ?_
  rintro p _ before rfl
  exact before.asymm before

/-- There is one way to drain what waits. -/
theorem unique (drained : w.Drained clock items rest) (drained' : w.Drained clock items' rest') :
    items = items' ∧ rest = rest' := by
  refine ⟨drained.ordered.eq_of_mem_iff drained'.ordered fun p => ?_, funext fun p => ?_⟩
  · rw [drained.due, drained'.due]
  · rw [drained.left, drained'.left]

/-- Where nothing is due, nothing is handed out. -/
theorem nil (early : ∀ p date, w p = some date → clock < date) : w.Drained clock [] w where
  ordered := .nil
  due p := by
    refine iff_of_false List.not_mem_nil ?_
    rintro ⟨date, waits, ready⟩
    exact absurd ready (Int.not_le.2 (early p date waits))
  left p := by
    cases waits : w p with
    | none => rfl
    | some date => exact (Option.filter_eq_some_iff.2 ⟨rfl, by simpa using early p date waits⟩).symm

/-- The first of what waits is handed out, if it is due, and then the rest is drained. -/
theorem cons (first : w.IsFirst p date) (ready : date ≤ clock)
    (drained : Drained (Function.update w p none) clock items rest) :
    w.Drained clock (p :: items) rest := by
  have others {p' : String} {date' : Int} (waits : Function.update w p none p' = some date') :
      p' ≠ p ∧ w p' = some date' := by
    rw [Function.update_apply] at waits
    split at waits
    · cases waits
    · next other => exact ⟨other, waits⟩
  refine ⟨List.pairwise_cons.2 ⟨fun p' mem => ?_, drained.ordered.imp ?_⟩, fun p' => ?_,
    fun p' => ?_⟩
  · obtain ⟨date', waits, -⟩ := (drained.due p').1 mem
    exact first.before (others waits).2 (others waits).1
  · rintro p₁ p₂ ⟨date₁, date₂, waits₁, waits₂, order⟩
    exact ⟨date₁, date₂, (others waits₁).2, (others waits₂).2, order⟩
  · rw [List.mem_cons, drained.due]
    constructor
    · rintro (rfl | ⟨date', waits, ready'⟩)
      · exact ⟨date, first.1, ready⟩
      · exact ⟨date', (others waits).2, ready'⟩
    · rintro ⟨date', waits, ready'⟩
      by_cases same : p' = p
      · exact .inl same
      · exact .inr ⟨date', (Function.update_of_ne same ..).trans waits, ready'⟩
  · rw [drained.left, Function.update_apply]
    split
    · next same =>
      subst same
      rw [first.1]
      exact (Option.filter_eq_none_iff.2 (by simpa using ready)).symm
    · rfl

end Drained

end Waiting

/-! ## What waits in a store -/

namespace Keyspace

variable {k : Keyspace}

/-- What waits in a store is finite. -/
theorem exists_due (k : Keyspace) (key : String) (clock : Int) :
    ∃ due : Finset String, ∀ p, p ∈ due ↔ ∃ date, k.waiting key p = some date ∧ date ≤ clock := by
  obtain ⟨payloads, all⟩ : ∃ payloads : Finset String, ∀ p date, k.waiting key p = some date →
      p ∈ payloads := by
    unfold waiting
    rcases k.entries[key]? with _ | ⟨_ | _ | set, _⟩
    · exact ⟨∅, fun p date => nofun⟩
    · exact ⟨∅, fun p date => nofun⟩
    · exact ⟨∅, fun p date => nofun⟩
    · obtain ⟨payloads, mem, -⟩ := set.exists_card_eq_size
      exact ⟨payloads, fun p date waits => (mem p).2 (Option.isSome_of_eq_some waits)⟩
  refine ⟨payloads.filter fun p => (k.waiting key p).any fun date => date ≤ clock, fun p => ?_⟩
  rw [Finset.mem_filter, Option.any_eq_true]
  simp only [decide_eq_true_eq]
  constructor
  · exact And.right
  · rintro ⟨date, waits, ready⟩
    exact ⟨all p date waits, date, waits, ready⟩

end Keyspace

namespace Queue

/-! ## Draining -/

/-- Something is taken out again and again, each time at the next point of time of a schedule,
until there is nothing to be had. -/
inductive Drains {α : Type} (o : Operation (Option α)) :
    (Nat → Nat) → Keyspace → List α → Keyspace → Prop
  | done {schedule : Nat → Nat} {k k' : Keyspace}
    (nothing : o.on k (schedule 0) = (.ok none, k')) : Drains o schedule k [] k'
  | take {schedule : Nat → Nat} {k k₁ k' : Keyspace} {a : α} {items : List α}
    (taken : o.on k (schedule 0) = (.ok (some a), k₁))
    (rest : Drains o (fun i => schedule (i + 1)) k₁ items k') :
    Drains o schedule k (a :: items) k'

/-- What is handed out, and the store after it, are determined. -/
theorem Drains.unique {α : Type} {o : Operation (Option α)} {schedule : Nat → Nat}
    {k k' k'' : Keyspace} {items items' : List α} (drains : Drains o schedule k items k')
    (drains' : Drains o schedule k items' k'') : items = items' ∧ k' = k'' := by
  induction drains generalizing items' with
  | done nothing =>
    cases drains' with
    | done nothing' => exact ⟨rfl, congrArg Prod.snd (nothing.symm.trans nothing')⟩
    | take taken' => cases nothing.symm.trans taken'
  | take taken _ ih =>
    cases drains' with
    | done nothing' => cases taken.symm.trans nothing'
    | take taken' rest' =>
      cases taken.symm.trans taken'
      obtain ⟨rfl, rfl⟩ := ih rest'
      exact ⟨rfl, rfl⟩

section Drain

variable {q : Queue} {k : Keyspace} {start : Nat} {name : String} {clock : UInt64}
  {schedule : Nat → Nat} (named : Text.isBlank name = false)

include named

/-- What waits can be drained at every clock that fits 63 bits. -/
theorem exists_drains (usable : k.Usable start (keyIn q.settings.delayedSpace name) .sorted)
    (fits : clock.toNat ≤ 9223372036854775807) (later : ∀ i, start ≤ schedule i) :
    let key := keyIn q.settings.delayedSpace name
    ∃ items k', Drains (q.dequeueDelayed clock name) schedule k items k' ∧
      (k.waiting key).Drained clock.toNat items (k'.waiting key) := by
  intro key
  obtain ⟨due, mem⟩ := k.exists_due key clock.toNat
  -- what is taken out is no longer due, so there is less to do each time
  induction due using Finset.strongInduction generalizing k schedule with
  | H due ih =>
    obtain ⟨item, result, first, after⟩ :=
      dequeueDelayed_on_of_le named usable.sound (usable.sorted (later 0)) fits
    have usable' := usable.on (OnSorted.dequeue clock).sends (schedule 0)
    generalize done : (q.dequeueDelayed clock name).on k (schedule 0) = r at result after usable'
    obtain ⟨r, k₁⟩ := r
    obtain rfl := result
    cases item with
    | none =>
      refine ⟨[], k₁, .done done, ?_⟩
      rw [show k₁.waiting key = k.waiting key from after]
      refine .nil fun p date waits => ?_
      obtain ⟨p', date', first', le⟩ := usable.sound.exists_isFirst waits
      by_contra ready
      cases (first p').2 ⟨date', first', by omega⟩
    | some p =>
      obtain ⟨date, first, ready⟩ := (first p).1 rfl
      have after : k₁.waiting key = Function.update (k.waiting key) p none := after
      obtain ⟨items, k', drains, drained⟩ := ih (due.erase p)
        (Finset.erase_ssubset ((mem p).2 ⟨date, first.1, ready⟩)) usable'
        (fun i => later (i + 1)) fun p' => by
          rw [Finset.mem_erase, mem, after, Function.update_apply]
          split <;> simp [*]
      rw [after] at drained
      exact ⟨p :: items, k', .take done drains, .cons first ready drained⟩

end Drain

/-! ## Putting in -/

/-- A payload that is put in at a point of time, with its date. -/
structure Put where
  time : Nat
  payload : String
  readyAt : UInt64
deriving DecidableEq, Repr

namespace Put

/-- A payload that is put in from a point of time on, with a date that fits 63 bits. -/
def Fits (start : Nat) (x : Put) : Prop :=
  start ≤ x.time ∧ x.readyAt.toNat ≤ 9223372036854775807

instance (start : Nat) (x : Put) : Decidable (x.Fits start) := inferInstanceAs (Decidable (_ ∧ _))

/-- The operation that puts a payload in, at its point of time. -/
def op (q : Queue) (name : String) (x : Put) : Nat × Operation Bool :=
  (x.time, q.enqueueDelayed name x.payload x.readyAt)

end Put

/-- The last date that every payload was given. -/
def lastDates (puts : List Put) : Waiting := fun p =>
  (puts.reverse.find? fun x => x.payload = p).map fun x => x.readyAt.toNat

/-- The payloads whose last dates have come at a clock. -/
def duePayloads (puts : List Put) (clock : Int) : Finset String :=
  (puts.map Put.payload).toFinset.filter fun p => (lastDates puts p).any fun date => date ≤ clock

theorem lastDates_cons (x : Put) (puts : List Put) (p : String) :
    lastDates (x :: puts) p =
      (lastDates puts p).or (if x.payload = p then some (x.readyAt.toNat : Int) else none) := by
  simp only [lastDates, List.reverse_cons, List.find?_append, Option.map_or, List.find?_singleton,
    decide_eq_true_eq]
  split <;> rfl

theorem mem_duePayloads {puts : List Put} {clock : Int} {p : String} :
    p ∈ duePayloads puts clock ↔ ∃ date, lastDates puts p = some date ∧ date ≤ clock := by
  simp only [duePayloads, Finset.mem_filter, Option.any_eq_true, decide_eq_true_eq,
    and_iff_right_iff_imp]
  rintro ⟨date, last, -⟩
  obtain ⟨x, found, -⟩ := Option.map_eq_some_iff.1 last
  have mem := List.mem_reverse.1 (List.mem_of_find?_eq_some found)
  have same : x.payload = p := by simpa using List.find?_some found
  exact List.mem_toFinset.2 (List.mem_map.2 ⟨x, mem, same⟩)

section Puts

variable {q : Queue} {k : Keyspace} {start : Nat} {name : String}

theorem usable_puts (usable : k.Usable start (keyIn q.settings.delayedSpace name) .sorted)
    (puts : List Put) :
    (Operation.run (puts.map (Put.op q name)) k).2.Usable start
      (keyIn q.settings.delayedSpace name) .sorted := by
  refine usable_run usable fun y mem => ?_
  obtain ⟨x, -, rfl⟩ := List.mem_map.1 mem
  exact (OnSorted.enqueue x.payload x.readyAt).sends

/-- Payloads that are put in wait for the last dates that they were given. -/
theorem run_puts (named : Text.isBlank name = false)
    (usable : k.Usable start (keyIn q.settings.delayedSpace name) .sorted) {puts : List Put}
    (fit : ∀ x ∈ puts, x.Fits start) :
    let key := keyIn q.settings.delayedSpace name
    let done := Operation.run (puts.map (Put.op q name)) k
    (∀ result ∈ done.1, ∃ isNew, result = .ok isNew) ∧
      ∀ p, done.2.waiting key p = (lastDates puts p).or (k.waiting key p) := by
  intro key done
  induction puts generalizing k with
  | nil => exact ⟨by simp [done, Operation.run], fun p => rfl⟩
  | cons x puts ih =>
    rw [List.forall_mem_cons] at fit
    have put := enqueueDelayed_on_of_le named usable.sound (usable.sorted fit.1.1) x.payload fit.1.2
    have usable' := usable.on (OnSorted.enqueue x.payload x.readyAt).sends x.time
    obtain ⟨results, waits⟩ := ih usable' fit.2
    refine ⟨List.forall_mem_cons.2 ⟨⟨_, put.1⟩, results⟩, fun p => (waits p).trans ?_⟩
    rw [put.2, lastDates_cons, Option.or_assoc, Function.update_apply]
    congr 1
    rcases eq_or_ne p x.payload with rfl | other
    · rw [if_pos rfl, if_pos rfl]
      rfl
    · rw [if_neg other, if_neg other.symm]
      rfl

end Puts

/-- Payloads are put under a name that is free, in any state that a store can come to, any of them
as often as one likes, with dates that fit 63 bits. Then they are taken out at one clock that fits,
until nothing is handed out any more.

* All of them are put in, and taking them out comes to an end after as many as are due by their
  last dates.
* Each of these is handed out once, in the order of the dates, and of the bytes where dates are
  equal. All others are left, with their last dates.
* Whatever else was put in instead, in whatever order : with the same last dates just the same is
  handed out and left. -/
theorem delayed_drain (q : Queue) (past : List (Nat × Access)) (start : Nat) (name : String)
    (puts : List Put) (clock : UInt64) (schedule : Nat → Nat)
    (named : Text.isBlank name = false)
    (free : (replay Keyspace.access past {}).2.live? start
      (keyIn q.settings.delayedSpace name) = none)
    (fit : ∀ x ∈ puts, x.Fits start) (fits : clock.toNat ≤ 9223372036854775807)
    (later : ∀ i, start ≤ schedule i) :
    let key := keyIn q.settings.delayedSpace name
    let filled (puts : List Put) :=
      Operation.run (puts.map (Put.op q name)) (replay Keyspace.access past {}).2
    (∀ result ∈ (filled puts).1, ∃ isNew, result = .ok isNew) ∧
      ∃ items k', Drains (q.dequeueDelayed clock name) schedule (filled puts).2 items k' ∧
        items.length = (duePayloads puts clock.toNat).card ∧ items.Nodup ∧
        (lastDates puts).Drained clock.toNat items (k'.waiting key) ∧
        ∀ puts' schedule', (∀ x ∈ puts', x.Fits start) → (∀ i, start ≤ schedule' i) →
          lastDates puts' = lastDates puts →
          ∃ k'', Drains (q.dequeueDelayed clock name) schedule' (filled puts').2 items k'' ∧
            k''.waiting key = k'.waiting key := by
  intro key filled
  have sound : (replay Keyspace.access past {}).2.Sound := Keyspace.Sound.empty.replay past
  have usable := Keyspace.usable_of_absent sound free .sorted
  have nothing : (replay Keyspace.access past {}).2.waiting key = Waiting.empty := by
    rw [sound.waiting_eq start, free]
    rfl
  have drain (puts : List Put) (schedule : Nat → Nat) (fit : ∀ x ∈ puts, x.Fits start)
      (later : ∀ i, start ≤ schedule i) :
      ∃ items k', Drains (q.dequeueDelayed clock name) schedule (filled puts).2 items k' ∧
        (lastDates puts).Drained clock.toNat items (k'.waiting key) := by
    obtain ⟨-, waits⟩ := run_puts named usable fit
    have last : (filled puts).2.waiting key = lastDates puts := by
      funext p
      rw [waits, nothing]
      exact Option.or_none
    exact last ▸ exists_drains named (usable_puts usable puts) fits later
  obtain ⟨items, k', drains, drained⟩ := drain puts schedule fit later
  refine ⟨(run_puts named usable fit).1, items, k', drains, ?_, drained.nodup, drained, ?_⟩
  · rw [← List.toFinset_card_of_nodup drained.nodup]
    congr 1
    ext p
    rw [List.mem_toFinset, drained.due, mem_duePayloads]
  · intro puts' schedule' fit' later' same
    obtain ⟨items', k'', drains', drained'⟩ := drain puts' schedule' fit' later'
    obtain ⟨rfl, rest⟩ := drained.unique (same ▸ drained')
    exact ⟨k'', drains', rest.symm⟩

/-- Two of three payloads are due after one of them was put off and then brought forward again, and
are handed out in the order of their bytes. Putting them in once each comes to the same. -/
theorem delayed_drain_twice :
    let q : Queue := ⟨{}, rfl⟩
    let puts : List Put := [⟨1, "b", 5⟩, ⟨1, "a", 9⟩, ⟨2, "c", 7⟩, ⟨3, "a", 5⟩]
    let puts' : List Put := [⟨4, "c", 7⟩, ⟨2, "a", 5⟩, ⟨1, "b", 5⟩]
    let filled (puts : List Put) := (Operation.run (puts.map (Put.op q "x")) {}).2
    (∃ k', Drains (q.dequeueDelayed 6 "x") (fun i => i + 4) (filled puts) ["a", "b"] k') ∧
      ∃ k', Drains (q.dequeueDelayed 6 "x") (fun i => i + 4) (filled puts') ["a", "b"] k' := by
  intro q puts puts' filled
  have same : lastDates puts' = lastDates puts := by
    funext p
    simp only [lastDates, puts, puts', List.reverse_cons, List.reverse_nil, List.nil_append,
      List.cons_append, List.find?_cons, List.find?_nil]
    by_cases a : "a" = p
    · simp [← a]
    · by_cases b : "b" = p
      · simp [← b]
      · cases c : decide ("c" = p) <;> simp [a, b]
  have due : duePayloads puts (6 : UInt64).toNat = {"a", "b"} := by decide
  have before : (lastDates puts).Before "a" "b" :=
    ⟨5, 5, by decide, by decide, .inr ⟨rfl, by decide⟩⟩
  obtain ⟨-, items, k', drains, -, -, drained, again⟩ :=
    delayed_drain q [] 0 "x" puts 6 (fun i => i + 4) (by decide) rfl (by decide) (by decide)
      (by simp)
  obtain rfl : items = ["a", "b"] := by
    refine drained.ordered.eq_of_mem_iff (List.pairwise_pair.2 before) fun p => ?_
    rw [drained.due, ← mem_duePayloads, due]
    simp
  obtain ⟨k'', drains', -⟩ := again puts' (fun i => i + 4) (by decide) (by simp) same
  exact ⟨⟨k', drains⟩, k'', drains'⟩

end Queue

end Turnstile
