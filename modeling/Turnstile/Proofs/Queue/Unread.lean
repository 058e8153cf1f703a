import Turnstile.Proofs.Queue.Delay
import Turnstile.Proofs.Queue.Line
import Turnstile.Queue.Item

/-!
# Payloads that cannot be read

An item is taken out of its collection as a payload, and read after that. So what becomes of the
collection does not depend on whether the payload can be read, nor on the type of the item
(`Operation.on_andThen`). Any other error of taking an item comes from a request that was never
made, or that the store refused, and then nothing has changed.

`unread_payload` : an item is refused for its payload exactly if the payload that is to be had
cannot be read, and then this payload is gone all the same (`unread_gone`).
-/

namespace Turnstile

/-! ## What is taken out -/

/-- A request for the first payload in line is answered with it, and with nil at best if nobody
stands in line. -/
theorem Line.Step.pop_of_answer {key : String} {line line' : List String} {r : Request}
    {answer : Answer} (step : Step key line (.eval r) (.answer answer) line')
    (asked : Action.ofRequest r = .ok (.pop key)) :
    (∃ p, answer = .ok (.text p) ∧ line = p :: line') ∨
      line = [] ∧ ∀ reply, answer = .ok reply → reply = .nil := by
  cases step with
  | pop asked' first => exact .inl ⟨_, rfl, first⟩
  | drained asked' none => exact .inr ⟨none, fun _ same => (Except.ok.inj same).symm⟩
  | refuse asked' none => exact .inr ⟨none, by simp⟩
  | leave other => exact absurd rfl (other _ asked)
  | push asked' | len asked' | destroy asked' => cases asked.symm.trans asked'

/-- A request for the first payload that waits is answered with it if its date has come, and
with nil at best if it has not. -/
theorem Waiting.Step.pop_of_answer {key : String} {w w' : Waiting} {r : Request}
    {answer : Answer} {limit : Int} (step : Step key w r answer w')
    (asked : Action.ofRequest r = .ok (.delayedPop key limit)) :
    (∃ p date, answer = .ok (.text p) ∧ w.IsFirst p date ∧ date ≤ limit ∧
        w' = Function.update w p none) ∨
      (∀ p date, w.IsFirst p date → limit < date) ∧
        ∀ reply, answer = .ok reply → reply = .nil := by
  cases step with
  | @deliver _ date p asked' waits ready least =>
    cases asked.symm.trans asked'
    exact .inl ⟨p, date, rfl, ⟨waits, least⟩, ready, rfl⟩
  | wait asked' early =>
    cases asked.symm.trans asked'
    exact .inr ⟨fun p date first => early p date first.1,
      fun _ same => (Except.ok.inj same).symm⟩
  | refuse asked' none =>
    subst none
    refine .inr ⟨fun p date first => ?_, by simp⟩
    cases first.1
  | leave other => exact absurd rfl (other _ asked)
  | put asked' | remove asked' | count asked' => cases asked.symm.trans asked'
  | destroy asked' => cases asked.symm.trans asked'

namespace Queue

variable {α β : Type} {q : Queue} {c : Codec α} {k : Keyspace} {now : Nat} {name p : String}

/-- What is made of the result of an operation does not change what it does to the store. -/
theorem Operation.on_andThen (o : Operation α) (f : α → Except Error β) (k : Keyspace)
    (now : Nat) :
    Operation.on (o.map fun x => x.andThen f) k now =
      ((o.on k now).1.bind f, (o.on k now).2) := by
  cases o <;> rfl

/-! ## Reading what was taken -/

section Read

variable {taken : Except Error (Option String)}

/-- An item is refused for its payload exactly if there is one and it cannot be read. -/
theorem bind_ofPayload_eq_payload_iff (clean : ∀ fault, taken ≠ .error (.payload fault))
    (fault : Json.Fault) :
    taken.bind c.ofPayload = .error (.payload fault) ↔
      ∃ p, taken = .ok (some p) ∧ c.read p = .error fault := by
  rcases taken with e | _ | p
  · simpa [Except.bind] using fun same => clean fault (congrArg Except.error same)
  · simp [Except.bind, Codec.ofPayload]
  · cases read : c.read p <;> simp [Except.bind, Codec.ofPayload, Except.map, Except.mapError, read]

/-- Any other error is one of the request for a payload. -/
theorem eq_error_of_bind_ofPayload {e : Error} (other : ∀ fault, e ≠ .payload fault)
    (failed : taken.bind c.ofPayload = .error e) : taken = .error e := by
  rcases taken with e' | _ | p
  · exact congrArg Except.error (Except.error.inj failed)
  · cases failed
  · cases read : c.read p with
    | ok item => simp [Except.bind, Codec.ofPayload, Except.map, Except.mapError, read] at failed
    | error fault =>
      simp only [Except.bind, Codec.ofPayload, Except.map, Except.mapError, read] at failed
      exact absurd (Except.error.inj failed).symm (other fault)

end Read

/-! ## Requests for a payload -/

section Request

variable {command : Command} {request : Request} {event : String → Event}

/-- A payload is handed out exactly if the store answers with it. -/
theorem on_payloadOf_eq_some_iff :
    (Operation.on (.ok (payloadOf command request event)) k now).1 = .ok (some p) ↔
      (k.eval now request).1 = .ok (.text p) := by
  simp only [Operation.on, payloadOf, Exchange.ofReply]
  rcases (k.eval now request).1 with e | _ | n | t <;> simp [Except.bind, Reply.asText?]

/-- If the store only answers with texts or nil, a request for a payload fails only where the
store refuses it. -/
theorem on_payloadOf_eq_error {e : Error}
    (texts : ∀ n, (k.eval now request).1 ≠ .ok (.int n))
    (failed : (Operation.on (.ok (payloadOf command request event)) k now).1 = .error e) :
    ∃ e', e = .store e' ∧ (k.eval now request).1 = .error e' := by
  simp only [Operation.on, payloadOf, Exchange.ofReply] at failed
  rcases answered : (k.eval now request).1 with e' | _ | n | t
  · rw [answered] at failed
    exact ⟨e', (Except.error.inj failed).symm, rfl⟩
  · rw [answered] at failed
    cases failed
  · exact absurd answered (texts n)
  · rw [answered] at failed
    cases failed

end Request

/-! ## Dequeueing -/

/-- What comes of taking a payload : the one that is `Ready` is handed out, if there is one, and
is gone from then on. A taking that fails does not fail for a payload, and changes nothing. -/
structure Takes (k : Keyspace) (now : Nat) (Ready : String → Prop)
    (Gone : String → Keyspace → Prop) (done : Except Error (Option String) × Keyspace) : Prop where
  some_iff : ∀ p, done.1 = .ok (some p) ↔ Ready p
  gone : ∀ p, Ready p → Gone p done.2
  clean : ∀ fault, done.1 ≠ .error (.payload fault)
  kept : ∀ e, done.1 = .error e → ∀ key, done.2.live? now key = k.live? now key

section Takes

variable {Ready : String → Prop} {Gone : String → Keyspace → Prop}

/-- What comes of taking an item where a payload can be taken. -/
theorem Takes.item {done : Except Error (Option String) × Keyspace}
    (takes : Takes k now Ready Gone done) :
    (∀ fault, done.1.bind c.ofPayload = .error (.payload fault) ↔
        ∃ p, Ready p ∧ c.read p = .error fault) ∧
      (∀ p, Ready p → Gone p done.2) ∧
      ∀ e, done.1.bind c.ofPayload = .error e → (∀ fault, e ≠ .payload fault) →
        ∀ key, done.2.live? now key = k.live? now key := by
  refine ⟨fun fault => ?_, takes.gone, fun e failed other => ?_⟩
  · simp only [bind_ofPayload_eq_payload_iff takes.clean, takes.some_iff]
  · exact takes.kept e (eq_error_of_bind_ofPayload other failed)

/-- A request that is refused at once, where nothing is ready. -/
theorem takes_of_refused {e : Error} {k' : Keyspace} (never : ∀ p, ¬Ready p)
    (clean : ∀ fault, e ≠ .payload fault) (kept : ∀ key, k'.live? now key = k.live? now key) :
    Takes k now Ready Gone (.error e, k') where
  some_iff p := iff_of_false (by simp) (never p)
  gone p ready := absurd ready (never p)
  clean fault same := clean fault (Except.error.inj same)
  kept _ _ := kept

/-- A request that is answered with the payload that is ready, or with nil at best if none
is. -/
theorem takes_of_answer {command : Command} {request : Request} {event : String → Event}
    (unique : ∀ p p', Ready p → Ready p' → p = p')
    (answered : (∃ p, (k.eval now request).1 = .ok (.text p) ∧ Ready p ∧
        Gone p (k.eval now request).2) ∨
      (∀ p, ¬Ready p) ∧ ∀ reply, (k.eval now request).1 = .ok reply → reply = .nil) :
    Takes k now Ready Gone (Operation.on (.ok (payloadOf command request event)) k now) := by
  rcases answered with ⟨first, text, ready, gone⟩ | ⟨never, nil⟩
  · have number (n : Int) : (k.eval now request).1 ≠ .ok (.int n) := by simp [text]
    refine ⟨fun p => ?_, fun p ready' => ?_, fun fault failed => ?_, fun e failed => ?_⟩
    · rw [on_payloadOf_eq_some_iff, text]
      constructor
      · rintro ⟨⟩
        exact ready
      · intro ready'
        rw [unique first p ready ready']
    · rw [unique p first ready' ready]
      exact gone
    · obtain ⟨e, same, -⟩ := on_payloadOf_eq_error number failed
      cases same
    · obtain ⟨e', -, refused⟩ := on_payloadOf_eq_error number failed
      cases text.symm.trans refused
  · have number (n : Int) : (k.eval now request).1 ≠ .ok (.int n) := fun same => by
      cases nil _ same
    refine ⟨fun p => ?_, fun p ready => absurd ready (never p), fun fault failed => ?_,
      fun e failed => ?_⟩
    · rw [on_payloadOf_eq_some_iff]
      exact iff_of_false (fun text => by cases nil _ text) (never p)
    · obtain ⟨e, same, -⟩ := on_payloadOf_eq_error number failed
      cases same
    · obtain ⟨e', -, refused⟩ := on_payloadOf_eq_error number failed
      exact Keyspace.live?_eval_of_error refused

end Takes

/-- The payload that a dequeue takes : the first in line. -/
def IsNext (q : Queue) (k : Keyspace) (name p : String) : Prop :=
  Text.isBlank name = false ∧ (k.line (keyIn q.settings.space name)).head? = some p

/-- The payload that a delayed dequeue takes : the first that waits, if its date has come at a
clock that fits 63 bits. -/
def IsDue (q : Queue) (k : Keyspace) (clock : UInt64) (name p : String) : Prop :=
  Text.isBlank name = false ∧ clock.toNat ≤ 9223372036854775807 ∧
    ∃ date, (k.waiting (keyIn q.settings.delayedSpace name)).IsFirst p date ∧
      date ≤ clock.toNat

theorem takes_dequeue (sound : k.Sound) (q : Queue) (now : Nat) (name : String) :
    let key := keyIn q.settings.space name
    Takes k now (q.IsNext k name) (fun p k' => k.line key = p :: k'.line key)
      ((q.dequeue name).on k now) := by
  intro key
  cases blank : Text.isBlank name with
  | true =>
    have refused : (q.dequeue name).on k now = (.error (.invalidName name), k) := by
      simp [dequeue, listKey, checkedKey, blank, Except.map, Operation.on]
    rw [refused]
    exact takes_of_refused (fun p ready => by cases blank.symm.trans ready.1) (by simp)
      fun _ => rfl
  | false =>
    have sent : q.dequeue name =
        .ok (payloadOf .pop (Command.pop.request [key] []) (.dequeued key)) := by
      simp [dequeue, listKey, checkedKey, blank, Except.map, key]
    rw [sent]
    refine takes_of_answer (fun p p' ready ready' => ?_) ?_
    · exact Option.some.inj (ready.2.symm.trans ready'.2)
    have step := sound.step_line_eval now key (Command.pop.request [key] [])
    rcases step.pop_of_answer rfl with ⟨p, text, first⟩ | ⟨none, nil⟩
    · exact .inl ⟨p, text, ⟨blank, congrArg List.head? first⟩, first⟩
    · refine .inr ⟨fun p ready => ?_, nil⟩
      cases (congrArg List.head? none).symm.trans ready.2

theorem takes_dequeueDelayed (sound : k.Sound) (q : Queue) (now : Nat) (name : String)
    (clock : UInt64) :
    let key := keyIn q.settings.delayedSpace name
    Takes k now (q.IsDue k clock name)
      (fun p k' => k'.waiting key = Function.update (k.waiting key) p none)
      ((q.dequeueDelayed clock name).on k now) := by
  intro key
  cases blank : Text.isBlank name with
  | true =>
    have refused : (q.dequeueDelayed clock name).on k now = (.error (.invalidName name), k) := by
      simp [dequeueDelayed, delayedKey, checkedKey, blank, Except.map, Operation.on]
    rw [refused]
    exact takes_of_refused (fun p ready => by cases blank.symm.trans ready.1) (by simp)
      fun _ => rfl
  | false =>
    rcases Nat.lt_or_ge 9223372036854775807 clock.toNat with large | fits
    · rw [dequeueDelayed_on_of_lt blank large]
      exact takes_of_refused (fun p ready => absurd ready.2.1 (Nat.not_le_of_lt large))
        (by simp [dateRefusal]) (k.live?_tick now)
    rw [dequeueDelayed, delayedKey_of_not_isBlank blank]
    refine takes_of_answer (fun p p' ready ready' => ?_) ?_
    · obtain ⟨-, -, date, first, -⟩ := ready
      obtain ⟨-, -, date', first', -⟩ := ready'
      exact first.unique first'
    have step := sound.step_waiting now
      (Command.delayedPop.request [key] [Text.Decimal.ofNat clock.toNat]) key
    rcases step.pop_of_answer (ofRequest_delayedPop key fits) with
      ⟨p, date, text, first, ready, gone⟩ | ⟨early, nil⟩
    · exact .inl ⟨p, text, ⟨blank, fits, date, first, ready⟩, gone⟩
    · refine .inr ⟨?_, nil⟩
      rintro p ⟨-, -, date, first, ready⟩
      exact absurd ready (Int.not_le_of_gt (early p date first))

/-- What becomes of a payload that cannot be read, for items of any type and in every state that
a store can come to. Taking an item fails for a payload exactly if the payload that is to be had
cannot be read. Whatever payload is to be had has been taken out by then, whether it can be read
or not. Where taking an item fails for another reason, nothing has changed. -/
theorem unread_payload {α : Type} (q : Queue) (c : Codec α) (run : List (Nat × Access))
    (now : Nat) (name : String) :
    let k := (replay Keyspace.access run {}).2
    let list := keyIn q.settings.space name
    let delayed := keyIn q.settings.delayedSpace name
    let done := (q.dequeueItem c name).on k now
    let doneDelayed (clock : UInt64) := (q.dequeueItemDelayed clock c name).on k now
    ((∀ fault, done.1 = .error (.payload fault) ↔
        ∃ p, q.IsNext k name p ∧ c.read p = .error fault) ∧
      (∀ p, q.IsNext k name p → k.line list = p :: done.2.line list) ∧
      ∀ e, done.1 = .error e → (∀ fault, e ≠ .payload fault) →
        ∀ key, done.2.live? now key = k.live? now key) ∧
    ∀ clock,
      (∀ fault, (doneDelayed clock).1 = .error (.payload fault) ↔
        ∃ p, q.IsDue k clock name p ∧ c.read p = .error fault) ∧
      (∀ p, q.IsDue k clock name p →
        (doneDelayed clock).2.waiting delayed = Function.update (k.waiting delayed) p none) ∧
      ∀ e, (doneDelayed clock).1 = .error e → (∀ fault, e ≠ .payload fault) →
        ∀ key, (doneDelayed clock).2.live? now key = k.live? now key := by
  intro k list delayed done doneDelayed
  have sound : k.Sound := Keyspace.Sound.empty.replay run
  refine ⟨?_, fun clock => ?_⟩
  · simp only [done, dequeueItem, Operation.on_andThen]
    exact (takes_dequeue sound q now name).item
  · simp only [doneDelayed, dequeueItemDelayed, Operation.on_andThen]
    exact (takes_dequeueDelayed sound q now name clock).item

/-- A payload that is no JSON is alone in its collection, is refused, and is gone. -/
theorem unread_gone :
    let q : Queue := ⟨{}, rfl⟩
    let k := ((q.enqueue "r" "not json").on {} 0).2
    let done := (q.dequeueItem Reminder.codec "r").on k 0
    let k' := ((q.enqueueDelayed "r" "not json" 1000).on {} 0).2
    let done' := (q.dequeueItemDelayed 1000 Reminder.codec "r").on k' 0
    k.line "queue:r" = ["not json"] ∧ done.1 = .error (.payload .malformed) ∧
      done.2.line "queue:r" = [] ∧
      k'.waiting "delayed_queue:r" "not json" = some 1000 ∧
      done'.1 = .error (.payload .malformed) ∧
      done'.2.waiting "delayed_queue:r" "not json" = none := by
  have line : ((Queue.enqueue ⟨{}, rfl⟩ "r" "not json").on {} 0).2.line "queue:r" =
      ["not json"] := by rfl
  intro q k done k' done'
  have key : keyIn q.settings.space "r" = "queue:r" := by decide
  have key' : keyIn q.settings.delayedSpace "r" = "delayed_queue:r" := by decide
  have front : q.IsNext k "r" "not json" := ⟨by decide, congrArg List.head? (key ▸ line)⟩
  have first : (k'.waiting (keyIn q.settings.delayedSpace "r")).IsFirst "not json" 1000 :=
    (isFirst_of_enqueueDelayed (q := q) (by decide) "not json" (by decide)).2
  have due : q.IsDue k' 1000 "r" "not json" :=
    ⟨by decide, by decide, 1000, first, Int.le_refl _⟩
  have sound : k.Sound := Operation.sound_on _ Keyspace.Sound.empty 0
  have sound' : k'.Sound := Operation.sound_on _ Keyspace.Sound.empty 0
  obtain ⟨refused, gone, -⟩ := (takes_dequeue sound q 0 "r").item (c := Reminder.codec)
  obtain ⟨refused', gone', -⟩ :=
    (takes_dequeueDelayed sound' q 0 "r" 1000).item (c := Reminder.codec)
  have left := gone "not json" front
  have left' := gone' "not json" due
  rw [key] at left
  rw [key'] at first left'
  simp only [done, done', dequeueItem, dequeueItemDelayed, Operation.on_andThen]
  refine ⟨line, ?_, ?_, first.1, ?_, ?_⟩
  · exact (refused .malformed).2 ⟨"not json", front, rfl⟩
  · exact (List.cons.inj (left.symm.trans line)).2
  · exact (refused' .malformed).2 ⟨"not json", due, rfl⟩
  · exact (congrFun left' "not json").trans (Function.update_self ..)

end Queue

end Turnstile
