import Turnstile.Proofs.Json.Written
import Turnstile.Proofs.Queue.Series
import Turnstile.Proofs.Queue.Unread

/-!
# Items survive a queue

Items travel as payloads. What is written of an item is read as this item (`Codec.Faithful`), so no
two items have one payload, and a queue of payloads can be told as one of items. In order, items
come back as they were put in (`dequeue_items`). With dates, what waits is a table of items, each
with one date, and every call is a step of this table : putting in tells whether the item is new
there, and taking out hands over one that is due (`Table.Step`, `table_run`). Nothing of this says
how items are written, as it does not depend on it.

`items_survive` : so it is for both types of items with fields, whatever their texts are.
-/

namespace Turnstile

open Json

/-! ## Payloads of items -/

/-- Every item has a payload, which is read as this item. -/
structure Codec.Faithful {α : Type} (c : Codec α) (payload : α → String) : Prop where
  write : ∀ a, c.write a = .ok (payload a)
  read : ∀ a, c.read (payload a) = .ok a

/-- No two items have one payload. -/
theorem Codec.Faithful.injective {α : Type} {c : Codec α} {payload : α → String}
    (faithful : c.Faithful payload) : Function.Injective payload := by
  intro a b same
  have read := faithful.read a
  rw [same, faithful.read b] at read
  exact (Except.ok.inj read).symm

theorem Codec.faithful_ofJson {α : Type} {write : α → List Char} {read : Reader α}
    (reads : ∀ a, Reads read (write a) a) :
    (Codec.ofJson write read).Faithful fun a => String.ofList (write a) :=
  ⟨fun _ => rfl, fun a => (reads a).parse⟩

theorem Reminder.faithful : codec.Faithful fun r => String.ofList r.write := by
  refine Codec.faithful_ofJson fun r => ?_
  have user : UInt32.ofNat r.user.toNat = r.user := UInt32.ofNat_toNat
  have fits : r.user.toNat ≤ 4294967295 := Nat.le_of_lt_succ r.user.toNat_lt
  have number := (reads_writeNat fits (by decide)).map UInt32.ofNat
  rw [user] at number
  refine reads_writeObject (s := { user := some r.user, text := some r.text }) ?_ rfl
  refine .written rfl (RecordField.reads_ofReader number _) ?_
  exact .written rfl (RecordField.reads_ofReader (reads_writeText _) _) (.nil _)

theorem Report.faithful : codec.Faithful fun r => String.ofList r.write := by
  refine Codec.faithful_ofJson fun r => ?_
  refine reads_writeObject
    (s := { report := some r.report, requestedBy := some r.requestedBy }) ?_ rfl
  refine .written rfl (RecordField.reads_ofReader (reads_writeText _) _) ?_
  exact .written rfl (RecordField.reads_ofReader (reads_writeText _) _) (.nil _)

namespace Queue

variable {α : Type} {q : Queue} {c : Codec α} {payload : α → String} {k : Keyspace}
  {start now : Nat} {name : String}

section Payloads

variable (faithful : c.Faithful payload)

include faithful

theorem enqueueItem_eq (a : α) : q.enqueueItem c name a = q.enqueue name (payload a) := by
  simp [enqueueItem, payloadOfItem, faithful.write, Except.mapError, Except.bind]

theorem enqueueItemDelayed_eq (a : α) (readyAt : UInt64) :
    q.enqueueItemDelayed c name a readyAt = q.enqueueDelayed name (payload a) readyAt := by
  simp [enqueueItemDelayed, payloadOfItem, faithful.write, Except.mapError, Except.bind]

theorem ofPayload_map (item : Option α) : c.ofPayload (item.map payload) = .ok item := by
  cases item with
  | none => rfl
  | some a => simp [Codec.ofPayload, faithful.read, Except.map, Except.mapError]

end Payloads

/-! ## Items in order -/

section Lists

variable (faithful : c.Faithful payload) (named : Text.isBlank name = false)

include faithful named

/-- Items are put in line one after the other. -/
theorem enqueue_items (usable : k.Usable start (keyIn q.settings.space name) .list)
    {items : List (Nat × α)} (later : ∀ x ∈ items, start ≤ x.1) :
    let key := keyIn q.settings.space name
    let done := Operation.run (items.map fun x => (x.1, q.enqueueItem c name x.2)) k
    (∀ result ∈ done.1, result = .ok ()) ∧
      done.2.Usable start key .list ∧
      done.2.line key = k.line key ++ items.map fun x => payload x.2 := by
  intro key done
  induction items generalizing k with
  | nil => exact ⟨by simp [done, Operation.run], usable, by simp [done, Operation.run]⟩
  | cons x items ih =>
    rw [List.forall_mem_cons] at later
    obtain ⟨put, line⟩ := enqueue_on named usable later.1 (payload x.2)
    rw [← enqueueItem_eq faithful] at put line
    have usable' := usable.on (OnList.enqueueItem c x.2).sends x.1
    obtain ⟨results, usable'', line'⟩ := ih usable' later.2
    refine ⟨List.forall_mem_cons.2 ⟨put, results⟩, usable'', line'.trans ?_⟩
    rw [line, List.append_assoc]
    rfl

/-- The items in line are handed out in their order, and then nothing. -/
theorem dequeue_items {items : List α}
    (usable : k.Usable start (keyIn q.settings.space name) .list)
    (line : k.line (keyIn q.settings.space name) = items.map payload) {times : List Nat}
    (later : ∀ t ∈ times, start ≤ t) :
    (Operation.run (times.map fun t => (t, q.dequeueItem c name)) k).1 =
      (List.range times.length).map fun i => .ok items[i]? := by
  induction times generalizing k items with
  | nil => rfl
  | cons t times ih =>
    rw [List.forall_mem_cons] at later
    obtain ⟨taken, rest⟩ := dequeue_on named usable later.1
    have usable' := usable.on OnList.dequeue.sends t
    have done : (q.dequeueItem c name).on k t =
        (.ok items.head?, ((q.dequeue name).on k t).2) := by
      rw [dequeueItem, Operation.on_andThen, taken, line, List.head?_map]
      exact congrArg (·, _) (ofPayload_map faithful items.head?)
    have line' : ((q.dequeue name).on k t).2.line (keyIn q.settings.space name) =
        items.tail.map payload := by
      rw [rest, line, List.map_tail]
    have next := ih usable' line' later.2
    simp only [List.map_cons, Operation.run, done, next, List.length_cons, List.range_succ_eq_map,
      List.map_map]
    congr 1
    · rw [List.head?_eq_getElem?]
    · refine List.map_congr_left fun i _ => ?_
      simp

end Lists

/-! ## Items with dates -/

/-- A call on a delayed queue of items. -/
inductive ItemCall (α : Type) where
  | put (item : α) (readyAt : UInt64)
  | take (clock : UInt64)

/-- What a call on a delayed queue of items returns. -/
inductive ItemResult (α : Type) where
  | put (isNew : Bool)
  | take (item : Option α)

namespace ItemCall

/-- The operation that a call makes. -/
def op (q : Queue) (c : Codec α) (name : String) : ItemCall α → Operation (ItemResult α)
  | put item readyAt =>
    (q.enqueueItemDelayed c name item readyAt).map fun x => x.andThen fun b => .ok (.put b)
  | take clock =>
    (q.dequeueItemDelayed clock c name).map fun x => x.andThen fun a => .ok (.take a)

/-- A date or a clock that fits 63 bits. -/
def Fits : ItemCall α → Prop
  | put _ date | take date => date.toNat ≤ 9223372036854775807

/-- A call has the store work on the delayed queue as on one. -/
theorem sends (call : ItemCall α) :
    (call.op q c name).Sends (Kind.sorted.Requests (keyIn q.settings.delayedSpace name)) := by
  cases call with
  | put a readyAt => exact Operation.Sends.andThen (OnSorted.enqueueItem c a readyAt).sends _
  | take clock => exact Operation.Sends.andThen (OnSorted.dequeueItem clock c).sends _

end ItemCall

/-- Items that wait, with the dates from which on they are ready. -/
abbrev Table (α : Type) := α → Option Int

namespace Table

variable [DecidableEq α] {m : Table α} {w : Waiting}

/-- What a call returns, and what waits after it, where `m` is what waits before. -/
inductive Step (m : Table α) : ItemCall α → ItemResult α → Table α → Prop
  /-- An item is put in, or gets another date. -/
  | put (a : α) (readyAt : UInt64) :
    Step m (.put a readyAt) (.put (m a).isNone) (Function.update m a (some readyAt.toNat))
  /-- One of those with the least date is handed out, if it is ready. -/
  | take {a : α} {date : Int} {clock : UInt64} (waits : m a = some date)
    (ready : date ≤ clock.toNat) (least : ∀ b date', m b = some date' → date ≤ date') :
    Step m (.take clock) (.take (some a)) (Function.update m a none)
  /-- Nothing is handed out, as nothing is ready. -/
  | wait {clock : UInt64} (early : ∀ a date, m a = some date → clock.toNat < date) :
    Step m (.take clock) (.take none) m

/-- What calls return, one after the other, and what waits after them. -/
inductive Run : Table α → List (ItemCall α) → List (ItemResult α) → Table α → Prop
  | nil (m : Table α) : Run m [] [] m
  | cons {m m' m'' : Table α} {call : ItemCall α} {calls : List (ItemCall α)}
    {result : ItemResult α} {results : List (ItemResult α)} (step : Step m call result m')
    (later : Run m' calls results m'') : Run m (call :: calls) (result :: results) m''

/-- What waits are the payloads of the items of a table. -/
structure Shows (m : Table α) (c : Codec α) (w : Waiting) : Prop where
  items : ∀ a p, c.write a = .ok p → w p = m a
  only : ∀ p date, w p = some date → ∃ a, c.write a = .ok p

omit [DecidableEq α] in
theorem shows_empty (c : Codec α) : Shows (fun _ => none) c Waiting.empty :=
  ⟨fun _ _ _ => rfl, fun _ _ => nofun⟩

/-- As payloads are told apart, an item gets a date, or none, where its payload does. -/
theorem Shows.update (shows : m.Shows c w) (faithful : c.Faithful payload) (a : α)
    (date : Option Int) :
    Shows (Function.update m a date) c (Function.update w (payload a) date) := by
  refine ⟨fun b p written => ?_, fun p date' waits => ?_⟩
  · obtain rfl := Except.ok.inj ((faithful.write b).symm.trans written)
    simp only [Function.update_apply, faithful.injective.eq_iff, shows.items b _ written]
  · rw [Function.update_apply] at waits
    split at waits
    · next same => exact ⟨a, same ▸ faithful.write a⟩
    · exact shows.only p date' waits

end Table

section Dates

variable [DecidableEq α] {m : Table α} (faithful : c.Faithful payload)
  (named : Text.isBlank name = false)

include faithful named

/-- Putting an item in is a step of the table of what waits. -/
theorem step_put (usable : k.Usable start (keyIn q.settings.delayedSpace name) .sorted)
    (later : start ≤ now) (shows : m.Shows c (k.waiting (keyIn q.settings.delayedSpace name)))
    (a : α) {readyAt : UInt64} (fits : readyAt.toNat ≤ 9223372036854775807) :
    let done := (q.enqueueItemDelayed c name a readyAt).on k now
    done.1 = .ok (m a).isNone ∧
      Table.Shows (Function.update m a (some readyAt.toNat)) c
        (done.2.waiting (keyIn q.settings.delayedSpace name)) := by
  intro done
  obtain ⟨result, after⟩ :=
    enqueueDelayed_on_of_le named usable.sound (usable.sorted later) (payload a) fits
  rw [← enqueueItemDelayed_eq faithful] at result after
  rw [shows.items a _ (faithful.write a)] at result
  exact ⟨result, after ▸ shows.update faithful a _⟩

/-- Taking an item out is a step of the table of what waits. -/
theorem step_take (usable : k.Usable start (keyIn q.settings.delayedSpace name) .sorted)
    (later : start ≤ now) (shows : m.Shows c (k.waiting (keyIn q.settings.delayedSpace name)))
    {clock : UInt64} (fits : clock.toNat ≤ 9223372036854775807) :
    let done := (q.dequeueItemDelayed clock c name).on k now
    ∃ item m', done.1 = .ok item ∧ m.Step (.take clock) (.take item) m' ∧
      m'.Shows c (done.2.waiting (keyIn q.settings.delayedSpace name)) := by
  intro done
  obtain ⟨item, result, first, after⟩ :=
    dequeueDelayed_on_of_le named usable.sound (usable.sorted later) fits
  have carried : done = (Except.bind (.ok item) c.ofPayload,
      ((q.dequeueDelayed clock name).on k now).2) := by
    rw [← result]
    exact Operation.on_andThen ..
  have waits (b : α) := shows.items b _ (faithful.write b)
  rw [carried, after]
  cases item with
  | none =>
    refine ⟨none, m, rfl, .wait fun a date due => ?_, shows⟩
    obtain ⟨p, date', isFirst, le⟩ := usable.sound.exists_isFirst ((waits a).trans due)
    by_contra ready
    cases (first p).2 ⟨date', isFirst, by omega⟩
  | some p =>
    obtain ⟨date, isFirst, ready⟩ := (first p).1 rfl
    obtain ⟨a, written⟩ := shows.only p date isFirst.1
    obtain rfl := Except.ok.inj ((faithful.write a).symm.trans written)
    refine ⟨some a, Function.update m a none, ofPayload_map faithful (some a), ?_,
      shows.update faithful a none⟩
    refine .take ((waits a).symm.trans isFirst.1) ready fun b date' due => ?_
    rcases isFirst.2 _ _ ((waits b).trans due) with before | ⟨same, -⟩
    · exact before.le
    · exact same.le

theorem step_call (usable : k.Usable start (keyIn q.settings.delayedSpace name) .sorted)
    (later : start ≤ now) (shows : m.Shows c (k.waiting (keyIn q.settings.delayedSpace name)))
    {call : ItemCall α} (fits : call.Fits) :
    let done := (call.op q c name).on k now
    ∃ result m', done.1 = .ok result ∧ m.Step call result m' ∧
      m'.Shows c (done.2.waiting (keyIn q.settings.delayedSpace name)) := by
  intro done
  cases call with
  | put a readyAt =>
    obtain ⟨result, shows'⟩ := step_put faithful named usable later shows a fits
    simp only [done, ItemCall.op, Operation.on_andThen, result]
    exact ⟨_, _, rfl, .put a readyAt, shows'⟩
  | take clock =>
    obtain ⟨item, m', result, step, shows'⟩ := step_take faithful named usable later shows fits
    simp only [done, ItemCall.op, Operation.on_andThen, result]
    exact ⟨_, m', rfl, step, shows'⟩

/-- Calls one after the other make steps of the table of what waits. -/
theorem table_run (usable : k.Usable start (keyIn q.settings.delayedSpace name) .sorted)
    (shows : m.Shows c (k.waiting (keyIn q.settings.delayedSpace name)))
    {calls : List (Nat × ItemCall α)} (fit : ∀ x ∈ calls, start ≤ x.1 ∧ x.2.Fits) :
    let done := Operation.run (calls.map fun x => (x.1, x.2.op q c name)) k
    ∃ results m', done.1 = results.map .ok ∧ m.Run (calls.map (·.2)) results m' ∧
      m'.Shows c (done.2.waiting (keyIn q.settings.delayedSpace name)) := by
  intro done
  induction calls generalizing k m with
  | nil => exact ⟨[], m, rfl, .nil m, shows⟩
  | cons x calls ih =>
    rw [List.forall_mem_cons] at fit
    obtain ⟨result, m', returned, step, shows'⟩ :=
      step_call faithful named usable fit.1.1 shows fit.1.2
    obtain ⟨results, m'', returned', run, shows''⟩ :=
      ih (usable.on x.2.sends x.1) shows' fit.2
    exact ⟨result :: results, m'', congrArg₂ _ returned returned', .cons step run, shows''⟩

end Dates

/-! ## Both kinds of queues -/

/-- How items fare in the queues of a name, in a store in which the name is free from a point of
time on. -/
structure Carries (q : Queue) (c : Codec α) [DecidableEq α] (k : Keyspace) (start : Nat)
    (name : String) : Prop where
  /-- All items are put in line, and handed out again in their order, and then nothing. -/
  inOrder : ∀ (items : List (Nat × α)) (times : List Nat), (∀ x ∈ items, start ≤ x.1) →
    (∀ t ∈ times, start ≤ t) →
    let filled := Operation.run (items.map fun x => (x.1, q.enqueueItem c name x.2)) k
    (∀ result ∈ filled.1, result = .ok ()) ∧
      (Operation.run (times.map fun t => (t, q.dequeueItem c name)) filled.2).1 =
        (List.range times.length).map fun i => .ok (items.map (·.2))[i]?
  /-- An item with a date is handed out at every clock that has reached it. -/
  alone : ∀ (a : α) (readyAt clock : UInt64) (t t' : Nat), start ≤ t → start ≤ t' →
    readyAt ≤ clock → clock.toNat ≤ 9223372036854775807 →
    let put := (q.enqueueItemDelayed c name a readyAt).on k t
    put.1 = .ok true ∧ ((q.dequeueItemDelayed clock c name).on put.2 t').1 = .ok (some a)
  /-- All calls return what they should on a table of the items that wait, and these are the ones
  whose payloads are in the set in the end. -/
  scheduled : ∀ calls : List (Nat × ItemCall α), (∀ x ∈ calls, start ≤ x.1 ∧ x.2.Fits) →
    let done := Operation.run (calls.map fun x => (x.1, x.2.op q c name)) k
    ∃ results m, done.1 = results.map .ok ∧
      Table.Run (fun _ => none) (calls.map (·.2)) results m ∧
      m.Shows c (done.2.waiting (keyIn q.settings.delayedSpace name))

theorem carries_of_faithful [DecidableEq α] (faithful : c.Faithful payload)
    (named : Text.isBlank name = false) (sound : k.Sound)
    (free : k.live? start (keyIn q.settings.space name) = none)
    (freeDelayed : k.live? start (keyIn q.settings.delayedSpace name) = none) :
    q.Carries c k start name := by
  have usable := Keyspace.usable_of_absent sound free .list
  have usable' := Keyspace.usable_of_absent sound freeDelayed .sorted
  have line : k.line (keyIn q.settings.space name) = [] := by
    rw [sound.line_eq start, free]
    rfl
  have shows : Table.Shows (fun _ => none) c
      (k.waiting (keyIn q.settings.delayedSpace name)) := by
    rw [sound.waiting_eq start, freeDelayed]
    exact Table.shows_empty c
  refine ⟨fun items times later later' => ?inOrder,
    fun a readyAt clock t t' later later' ready fits => ?alone,
    fun calls fit => table_run faithful named usable' shows fit⟩
  case inOrder =>
    obtain ⟨results, usable, line'⟩ := enqueue_items faithful named usable later
    rw [line, List.nil_append] at line'
    refine ⟨results, dequeue_items faithful named usable (line'.trans ?_) later'⟩
    rw [List.map_map]
    rfl
  case alone =>
    have fits' : readyAt.toNat ≤ 9223372036854775807 := (UInt64.le_iff_toNat_le.1 ready).trans fits
    obtain ⟨result, shows'⟩ := step_put faithful named usable' later shows a fits'
    have usable'' := usable'.on (OnSorted.enqueueItem c a readyAt).sends t
    obtain ⟨item, m', result', step, -⟩ := step_take faithful named usable'' later' shows' fits
    refine ⟨result, result'.trans ?_⟩
    have waits (b : α) (date : Int)
        (waits : Function.update (fun _ => none) a (some (readyAt.toNat : Int)) b = some date) :
        b = a := by
      rw [Function.update_apply] at waits
      split at waits
      · assumption
      · cases waits
    cases step with
    | take waits' => rw [waits _ _ waits']
    | wait early =>
      have late := early a readyAt.toNat (Function.update_self ..)
      exact absurd ready (by rw [UInt64.le_iff_toNat_le]; omega)

/-- Items with fields survive the queues of every name that is free, in any state that a store can
come to, whatever their texts and numbers are.

* In order, items come back as they were put in, one after the other, and then nothing.
* An item that is put in alone, with a date, comes back at every clock that has reached the date
  and fits 63 bits.
* Whatever is put in and taken out, with dates and clocks that fit 63 bits, goes as on a table that
  has one date for every item that waits : putting in tells whether the item is new there, so two
  items never become one, and one item never becomes two; and what is handed out is one of those
  with the least date, if it is ready. In the end the payloads in the set are those of the items in
  the table. -/
theorem items_survive (q : Queue) (past : List (Nat × Access)) (start : Nat) (name : String)
    (named : Text.isBlank name = false)
    (free : (replay Keyspace.access past {}).2.live? start (keyIn q.settings.space name) = none)
    (freeDelayed : (replay Keyspace.access past {}).2.live? start
      (keyIn q.settings.delayedSpace name) = none) :
    let k := (replay Keyspace.access past {}).2
    q.Carries Reminder.codec k start name ∧ q.Carries Report.codec k start name := by
  intro k
  have sound : k.Sound := Keyspace.Sound.empty.replay past
  exact ⟨carries_of_faithful Reminder.faithful named sound free freeDelayed,
    carries_of_faithful Report.faithful named sound free freeDelayed⟩

/-- A reminder for the greatest user, and reports with texts that are escaped or are no ASCII. -/
theorem items_survive_escapes :
    let q : Queue := ⟨{}, rfl⟩
    let reminder : Reminder := ⟨4294967295, "\"\\\n\x01"⟩
    let put := (q.enqueueItemDelayed Reminder.codec "x" reminder 5).on {} 0
    let reports : List Report := [⟨"\u00e9\u20ac", ""⟩, ⟨"", "\t\u2028"⟩]
    let filled := Operation.run (reports.map fun r => (0, q.enqueueItem Report.codec "x" r)) {}
    put.1 = .ok true ∧
      ((q.dequeueItemDelayed 6 Reminder.codec "x").on put.2 1).1 = .ok (some reminder) ∧
      (Operation.run (List.replicate 3 (1, q.dequeueItem Report.codec "x")) filled.2).1 =
        [.ok (some ⟨"\u00e9\u20ac", ""⟩), .ok (some ⟨"", "\t\u2028"⟩), .ok none] := by
  intro q reminder put reports filled
  obtain ⟨reminders, inOrder⟩ := items_survive q [] 0 "x" (by decide) rfl rfl
  obtain ⟨isNew, taken⟩ :=
    reminders.alone reminder 5 6 0 1 (Nat.zero_le _) (Nat.zero_le _) (by decide) (by decide)
  exact ⟨isNew, taken,
    (inOrder.inOrder (reports.map (0, ·)) [1, 1, 1] (by simp) (by simp)).2⟩

end Queue

end Turnstile
