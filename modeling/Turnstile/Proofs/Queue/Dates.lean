import Turnstile.Proofs.Kinds
import Turnstile.Proofs.Queue.Waiting
import Turnstile.Queue.Basic

/-!
# The range of dates

Due dates and clocks are words of 64 bits, and an item that is put in after some time is due at
the greatest of them at the latest. The store, however, reads integers of 64 bits, which end
half-way. `delayed_dates` : up to there a date does what it should, in every state that a store
can come to, and every operation with a later date is refused and changes nothing
(`refused_date`).
-/

namespace Turnstile

namespace Waiting

variable {w w' : Waiting} {key p : String} {r : Request} {reply : Reply} {date : Int}

/-- A payload waits with the least date, and of those with this date it has the least bytes. -/
def IsFirst (w : Waiting) (p : String) (date : Int) : Prop :=
  w p = some date ∧ ∀ p' date', w p' = some date' →
    date < date' ∨ date = date' ∧ Text.bytes p ≤ Text.bytes p'

/-- At most one payload is the first. -/
theorem IsFirst.unique {p' : String} {date' : Int} (first : w.IsFirst p date)
    (first' : w.IsFirst p' date') : p = p' := by
  have before := first.2 p' date' first'.1
  have after := first'.2 p date first.1
  have le : Text.bytes p ≤ Text.bytes p' := by
    rcases before with early | ⟨-, le⟩
    · omega
    · exact le
  have ge : Text.bytes p' ≤ Text.bytes p := by
    rcases after with early | ⟨-, le⟩
    · omega
    · exact le
  exact String.le_antisymm ((Text.le_iff_bytes_le _ _).2 le) ((Text.le_iff_bytes_le _ _).2 ge)

/-- A payload that is put in waits from then on. -/
theorem Step.put_of_reply (step : Step key w r (.ok reply) w')
    (asked : Action.ofRequest r = .ok (.delayedPush key p date)) :
    reply = .ofBool (w p).isNone ∧ w' = Function.update w p (some date) := by
  cases step with
  | put asked' =>
    cases asked.symm.trans asked'
    exact ⟨rfl, rfl⟩
  | leave asked' => exact absurd rfl (asked' _ asked)
  | deliver asked' | wait asked' | remove asked' | count asked' | destroy asked' =>
    cases asked.symm.trans asked'

/-- What is taken out is the first payload, if its date has come. -/
theorem Step.pop_of_reply {limit : Int} (step : Step key w r (.ok reply) w')
    (asked : Action.ofRequest r = .ok (.delayedPop key limit)) :
    ∃ item : Option String, reply = .ofText? item ∧
      (∀ p, item = some p ↔ ∃ date, w.IsFirst p date ∧ date ≤ limit) ∧
      w' = item.elim w fun p => Function.update w p none := by
  cases step with
  | @deliver _ date p asked' waits ready least =>
    cases asked.symm.trans asked'
    have first : w.IsFirst p date := ⟨waits, least⟩
    refine ⟨some p, rfl, fun p' => ⟨?_, ?_⟩, rfl⟩
    · rintro ⟨⟩
      exact ⟨date, first, ready⟩
    · rintro ⟨date', first', -⟩
      exact congrArg some (first.unique first')
  | wait asked' early =>
    cases asked.symm.trans asked'
    refine ⟨none, rfl, fun p => ⟨by rintro ⟨⟩, ?_⟩, rfl⟩
    rintro ⟨date, first, ready⟩
    exact absurd ready (Int.not_le_of_gt (early p date first.1))
  | leave asked' => exact absurd rfl (asked' _ asked)
  | put asked' | remove asked' | count asked' | destroy asked' => cases asked.symm.trans asked'

end Waiting

/-- An action on a delayed queue is answered with a reply, where the key is absent or holds a
sorted set. -/
theorem Action.effect_of_sorted {a : Action} {key : String} (about : a.OnDelayed key)
    (named : a.key? = some key) (now : Nat) {live : Option Entry}
    (sorted : ∀ e ∈ live, ∃ set, e.value = .sorted set) :
    ∃ reply, (a.effect now live).1 = .ok reply := by
  refine effect_of_kind now named fun e held => ?_
  obtain ⟨set, holds⟩ := sorted e held
  rw [holds]
  cases a with
  | delayedPush | delayedPop | delayedRemove | delayedLen => rfl
  | destroy => cases named
  | _ => exact about.elim

/-- Where a delayed queue can be, a request on it that the store understands is answered with a
reply, and is a step of what waits. -/
theorem Keyspace.Sound.step_of_sorted {k : Keyspace} (sound : k.Sound) (now : Nat) {r : Request}
    {a : Action} {key : String} (asked : Action.ofRequest r = .ok a) (named : a.key? = some key)
    (about : a.OnDelayed key) (sorted : ∀ e ∈ k.live? now key, ∃ set, e.value = .sorted set) :
    ∃ reply, (k.eval now r).1 = .ok reply ∧
      Waiting.Step key (k.waiting key) r (.ok reply) ((k.eval now r).2.waiting key) := by
  obtain ⟨reply, answered⟩ := Action.effect_of_sorted about named now sorted
  rw [← k.fst_eval now asked named] at answered
  exact ⟨reply, answered, answered ▸ sound.step_waiting now r key⟩

namespace Queue

/-- Carries an operation out on a store : its result, and the store after it. -/
def Operation.on {α : Type} (o : Operation α) (k : Keyspace) (now : Nat) :
    Except Error α × Keyspace :=
  match o with
  | .error e => (.error e, k)
  | .ok x => ((x.finish (k.eval now x.request).1).2, (k.eval now x.request).2)

/-- How the store refuses a date that does not fit. -/
def dateRefusal (c : Command) (date : UInt64) : Error :=
  .store (.invalidArgument c.name
    (Text.quoted (Text.Decimal.ofNat date.toNat) ++ " is not an integer"))

/-- The date after a length of time is reckoned in whole seconds, up to the greatest date. -/
theorem toNat_dateAfter (now : UInt64) (delay : Nat) :
    (dateAfter now delay).toNat =
      min (now.toNat + Time.secondsUp delay) 18446744073709551615 :=
  UInt64.toNat_ofNat_of_lt' (Nat.lt_of_le_of_lt (Nat.min_le_right ..) (by decide))

/-- The store understands a due date that fits. -/
theorem ofRequest_delayedPush (key payload : String) {readyAt : UInt64}
    (fits : readyAt.toNat ≤ 9223372036854775807) :
    Action.ofRequest (Command.delayedPush.request [key]
        [payload, Text.Decimal.ofNat readyAt.toNat]) =
      .ok (.delayedPush key payload readyAt.toNat) :=
  Action.ofRequest_eq_delayedPush_iff.2
    ⟨rfl, rfl, rfl, _, rfl, Text.Decimal.readInt64?_ofNat _ fits⟩

/-- The store understands a clock that fits. -/
theorem ofRequest_delayedPop (key : String) {clock : UInt64}
    (fits : clock.toNat ≤ 9223372036854775807) :
    Action.ofRequest (Command.delayedPop.request [key] [Text.Decimal.ofNat clock.toNat]) =
      .ok (.delayedPop key clock.toNat) :=
  Action.ofRequest_eq_delayedPop_iff.2 ⟨rfl, rfl, _, rfl, Text.Decimal.readInt64?_ofNat _ fits⟩

section Operations

variable {q : Queue} {k : Keyspace} {now : Nat} {name : String}
  (named : Text.isBlank name = false)

include named

theorem delayedKey_of_not_isBlank :
    q.delayedKey name = .ok (keyIn q.settings.delayedSpace name) := by
  simp [delayedKey, checkedKey, named]

/-- A payload is put in with a date that fits. -/
theorem enqueueDelayed_on_of_le (sound : k.Sound)
    (sorted : ∀ e ∈ k.live? now (keyIn q.settings.delayedSpace name), ∃ set, e.value = .sorted set)
    (payload : String) {readyAt : UInt64} (fits : readyAt.toNat ≤ 9223372036854775807) :
    let key := keyIn q.settings.delayedSpace name
    let done := (q.enqueueDelayed name payload readyAt).on k now
    done.1 = .ok (k.waiting key payload).isNone ∧
      done.2.waiting key = Function.update (k.waiting key) payload (some readyAt.toNat) := by
  intro key done
  let request := Command.delayedPush.request [key] [payload, Text.Decimal.ofNat readyAt.toNat]
  have asked := ofRequest_delayedPush key payload fits
  obtain ⟨reply, answered, step⟩ := sound.step_of_sorted now asked rfl rfl sorted
  obtain ⟨rfl, after⟩ := step.put_of_reply asked
  have carried : done = (.ok (k.waiting key payload).isNone, (k.eval now request).2) := by
    simp only [done, enqueueDelayed, delayedKey_of_not_isBlank named, Except.map, Operation.on,
      Exchange.ofReply]
    rw [answered]
    simp [Except.bind, key, request]
  rw [carried]
  exact ⟨rfl, after⟩

/-- A date that does not fit is refused, and nothing changes. -/
theorem enqueueDelayed_on_of_lt (payload : String) {readyAt : UInt64}
    (large : 9223372036854775807 < readyAt.toNat) :
    (q.enqueueDelayed name payload readyAt).on k now =
      (.error (dateRefusal .delayedPush readyAt), k.tick now) := by
  have refused : Action.ofRequest (Command.delayedPush.request
      [keyIn q.settings.delayedSpace name] [payload, Text.Decimal.ofNat readyAt.toNat]) =
      .error (.invalidArgument Command.delayedPush.name
        (Text.quoted (Text.Decimal.ofNat readyAt.toNat) ++ " is not an integer")) := by
    rw [Action.ofRequest_request, Action.ofCommand, Request.int_of_lt rfl large]
    rfl
  rw [enqueueDelayed, delayedKey_of_not_isBlank named]
  simp only [Except.map, Operation.on, Exchange.ofReply, k.eval_of_error now refused]
  rfl

/-- At a date that fits the first payload is taken out if its own date has come. -/
theorem dequeueDelayed_on_of_le (sound : k.Sound)
    (sorted : ∀ e ∈ k.live? now (keyIn q.settings.delayedSpace name), ∃ set, e.value = .sorted set)
    {clock : UInt64} (fits : clock.toNat ≤ 9223372036854775807) :
    let key := keyIn q.settings.delayedSpace name
    let done := (q.dequeueDelayed clock name).on k now
    ∃ item : Option String, done.1 = .ok item ∧
      (∀ p, item = some p ↔ ∃ date, (k.waiting key).IsFirst p date ∧ date ≤ clock.toNat) ∧
      done.2.waiting key =
        item.elim (k.waiting key) fun p => Function.update (k.waiting key) p none := by
  intro key done
  let request := Command.delayedPop.request [key] [Text.Decimal.ofNat clock.toNat]
  have asked := ofRequest_delayedPop key fits
  obtain ⟨reply, answered, step⟩ := sound.step_of_sorted now asked rfl rfl sorted
  obtain ⟨item, rfl, first, after⟩ := step.pop_of_reply asked
  have carried : done = (.ok item, (k.eval now request).2) := by
    simp only [done, dequeueDelayed, delayedKey_of_not_isBlank named, Except.map, Operation.on,
      payloadOf, Exchange.ofReply]
    rw [answered]
    cases item <;> rfl
  rw [carried]
  exact ⟨item, rfl, first, after⟩

/-- At a date that does not fit nothing is taken out. -/
theorem dequeueDelayed_on_of_lt {clock : UInt64} (large : 9223372036854775807 < clock.toNat) :
    (q.dequeueDelayed clock name).on k now =
      (.error (dateRefusal .delayedPop clock), k.tick now) := by
  have refused : Action.ofRequest (Command.delayedPop.request
      [keyIn q.settings.delayedSpace name] [Text.Decimal.ofNat clock.toNat]) =
      .error (.invalidArgument Command.delayedPop.name
        (Text.quoted (Text.Decimal.ofNat clock.toNat) ++ " is not an integer")) := by
    rw [Action.ofRequest_request, Action.ofCommand, Request.int_of_lt rfl large]
    rfl
  rw [dequeueDelayed, delayedKey_of_not_isBlank named]
  simp only [Except.map, Operation.on, payloadOf, Exchange.ofReply, k.eval_of_error now refused]
  rfl

end Operations

/-- The dates that a delayed queue can be used with, in every state that a store can come to in
which the queue's key is absent or holds a sorted set.

* A payload is put in with every date that fits 63 bits, and waits for this date from then on. A
  later date is refused.
* A length of time is added to the clock in whole seconds, rounded up, and ends at the greatest
  date of 64 bits at the latest, which is refused.
* While the clock fits 63 bits, the first of what waits is handed out exactly if its date has
  come, and nothing else is. A clock beyond is refused.

Whatever is refused changes nothing. -/
theorem delayed_dates (q : Queue) (run : List (Nat × Access)) (now : Nat) (name : String)
    (named : Text.isBlank name = false)
    (sorted : ∀ e ∈ (replay Keyspace.access run {}).2.live? now
      (keyIn q.settings.delayedSpace name), ∃ set, e.value = .sorted set) :
    let k := (replay Keyspace.access run {}).2
    let key := keyIn q.settings.delayedSpace name
    let w := k.waiting key
    (∀ payload readyAt,
      let done := (q.enqueueDelayed name payload readyAt).on k now
      if readyAt.toNat ≤ 9223372036854775807 then
        done.1 = .ok (w payload).isNone ∧
          done.2.waiting key = Function.update w payload (some readyAt.toNat)
      else
        done.1 = .error (dateRefusal .delayedPush readyAt) ∧
          ∀ other, done.2.live? now other = k.live? now other) ∧
    (∀ clock payload delay, Time.secondsUp delay ≤ 18446744073709551615 →
      ∃ readyAt : UInt64,
        readyAt.toNat = min (clock.toNat + Time.secondsUp delay) 18446744073709551615 ∧
          q.enqueueAfter clock name payload delay = q.enqueueDelayed name payload readyAt) ∧
    ∀ clock,
      let done := (q.dequeueDelayed clock name).on k now
      if clock.toNat ≤ 9223372036854775807 then
        ∃ item : Option String, done.1 = .ok item ∧
          (∀ p, item = some p ↔ ∃ date, w.IsFirst p date ∧ date ≤ clock.toNat) ∧
          done.2.waiting key = item.elim w fun p => Function.update w p none
      else
        done.1 = .error (dateRefusal .delayedPop clock) ∧
          ∀ other, done.2.live? now other = k.live? now other := by
  intro k key w
  have sound : k.Sound := Keyspace.Sound.empty.replay run
  refine ⟨fun payload readyAt => ?put, fun clock payload delay _ => ?after, fun clock => ?take⟩
  case put =>
    split
    · next fits => exact enqueueDelayed_on_of_le named sound sorted payload fits
    · next large =>
      rw [enqueueDelayed_on_of_lt named payload (Nat.lt_of_not_le large)]
      exact ⟨rfl, k.live?_tick now⟩
  case after => exact ⟨dateAfter clock delay, toNat_dateAfter clock delay, rfl⟩
  case take =>
    split
    · next fits => exact dequeueDelayed_on_of_le named sound sorted fits
    · next large =>
      rw [dequeueDelayed_on_of_lt named (Nat.lt_of_not_le large)]
      exact ⟨rfl, k.live?_tick now⟩

/-- Half-way through the dates of 64 bits nothing is put in any more, nor handed out. -/
theorem refused_date :
    let q : Queue := ⟨{}, rfl⟩
    ((q.enqueueDelayed "x" "p" 9223372036854775808).on {} 0).1 =
        .error (dateRefusal .delayedPush 9223372036854775808) ∧
      ((q.enqueueAfter 0 "x" "p" (9223372036854775808 * Time.second)).on {} 0).1 =
        .error (dateRefusal .delayedPush 9223372036854775808) ∧
      ((q.enqueueDelayed "x" "p" 5).on {} 0).1 = .ok true ∧
      ((q.dequeueDelayed 9223372036854775808 "x").on
          ((q.enqueueDelayed "x" "p" 5).on {} 0).2 0).1 =
        .error (dateRefusal .delayedPop 9223372036854775808) := by
  have after : dateAfter 0 (9223372036854775808 * Time.second) = 9223372036854775808 := by decide
  refine ⟨by rfl, ?_, by rfl, by rfl⟩
  rw [enqueueAfter, after]
  rfl

/-- A payload that is due in the fifth second. -/
def dueAtFive : List (Nat × Access) :=
  [(0, .eval (Command.delayedPush.request ["delayed_queue:x"] ["p", "5"]))]

theorem delayed_dates_dueAtFive :
    let q : Queue := ⟨{}, rfl⟩
    let k := (replay Keyspace.access dueAtFive {}).2
    ((q.dequeueDelayed 4 "x").on k 0).1 = .ok none ∧
      ((q.dequeueDelayed 5 "x").on k 0).1 = .ok (some "p") ∧
      ((q.enqueueDelayed "x" "p" 9223372036854775807).on k 0).1 = .ok false ∧
      ((q.enqueueDelayed "x" "p" 9223372036854775808).on k 0).1 =
        .error (dateRefusal .delayedPush 9223372036854775808) := by
  intro q k
  have live : k.live? 0 "delayed_queue:x" =
      some ⟨.sorted (({} : SortedSet).insert "p" 5), none⟩ := by rfl
  obtain ⟨put, -, take⟩ := delayed_dates q dueAtFive 0 "x" (by decide) (by
    intro e found
    cases live.symm.trans found
    exact ⟨_, rfl⟩)
  have waits : ∀ p, k.waiting "delayed_queue:x" p = if "p" = p then some 5 else none := by
    intro p
    exact (SortedSet.score?_insert {} "p" p 5).trans (by rw [SortedSet.score?_empty])
  have only : ∀ p date, k.waiting "delayed_queue:x" p = some date → "p" = p ∧ 5 = date := by
    intro p date waiting
    rw [waits] at waiting
    split at waiting
    · next same => exact ⟨same, Option.some.inj waiting⟩
    · cases waiting
  have first : (k.waiting "delayed_queue:x").IsFirst "p" 5 := by
    refine ⟨waits "p", fun p' date' waiting => .inr ?_⟩
    obtain ⟨rfl, rfl⟩ := only p' date' waiting
    exact ⟨rfl, List.le_refl _⟩
  obtain ⟨early, earlyAnswer, earlyTaken, -⟩ := take 4
  obtain ⟨due, dueAnswer, dueTaken, -⟩ := take 5
  refine ⟨earlyAnswer.trans (congrArg _ ?_), dueAnswer.trans (congrArg _ ?_), ?_,
    (put "p" 9223372036854775808).1⟩
  · refine Option.eq_none_iff_forall_ne_some.2 fun p taken => ?_
    obtain ⟨date, first', le⟩ := (earlyTaken p).1 taken
    obtain ⟨-, rfl⟩ := only p date first'.1
    exact absurd le (by decide)
  · exact (dueTaken "p").2 ⟨5, first, by decide⟩
  · have known : (k.waiting "delayed_queue:x" "p").isNone = false := by
      rw [waits]
      rfl
    exact (put "p" 9223372036854775807).1.trans (congrArg _ known)

end Queue

end Turnstile
