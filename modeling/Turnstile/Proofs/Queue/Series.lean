import Turnstile.Proofs.Queue.Dates
import Turnstile.Proofs.Queue.Line

/-!
# Series of operations

Operations are carried out on a store one after the other, each at a point of time of its own
(`Operation.run`). A key that is free at some point of time can be used as one of any kind from
then on (`Keyspace.usable_of_absent`), and stays usable as one of a kind while it is only worked on
as such (`usable_run`). Where a key is usable, an operation that the store understands has a
result : for a delayed queue this is what its dates tell, a payload that is put in line joins it at
its end (`enqueue_on`), and the first one in line is handed out (`dequeue_on`).
-/

namespace Turnstile

namespace Line

variable {key : String} {line line' : List String} {r : Request} {reply : Reply}

/-- A payload joins the line at its end. -/
theorem Step.push_of_reply {p : String}
    (step : Step key line (.eval r) (.answer (.ok reply)) line')
    (asked : Action.ofRequest r = .ok (.push key p)) : line' = line ++ [p] := by
  cases step with
  | push asked' =>
    cases asked.symm.trans asked'
    rfl
  | leave asked' => exact absurd rfl (asked' _ asked)
  | pop asked' | drained asked' | len asked' | destroy asked' => cases asked.symm.trans asked'

/-- What is taken out is the first in line, if somebody stands there. -/
theorem Step.pop_of_reply (step : Step key line (.eval r) (.answer (.ok reply)) line')
    (asked : Action.ofRequest r = .ok (.pop key)) :
    reply = .ofText? line.head? ∧ line' = line.tail := by
  cases step with
  | pop asked' first =>
    subst first
    exact ⟨rfl, rfl⟩
  | drained asked' none =>
    subst none
    exact ⟨rfl, rfl⟩
  | leave asked' => exact absurd rfl (asked' _ asked)
  | push asked' | len asked' | destroy asked' => cases asked.symm.trans asked'

end Line

namespace Keyspace

/-- A store that can come about, in which clients see nothing but values of a kind under a key
from a point of time on. -/
structure Usable (k : Keyspace) (start : Nat) (key : String) (kind : Kind) : Prop where
  sound : k.Sound
  only : ∀ now, start ≤ now → ∀ e ∈ k.live? now key, e.value.kind = kind

variable {k : Keyspace} {start now : Nat} {key : String} {kind : Kind}

/-- A key that is free can be used as one of any kind. -/
theorem usable_of_absent (sound : k.Sound) (free : k.live? start key = none) (kind : Kind) :
    k.Usable start key kind := by
  refine ⟨sound, fun now later e live => ?_⟩
  rw [k.live?_later key later, free] at live
  cases live

namespace Usable

/-- A key stays usable when it is worked on as one of its kind. -/
theorem eval (usable : k.Usable start key kind) {r : Request} (requests : kind.Requests key r)
    (now : Nat) : (k.eval now r).2.Usable start key kind := by
  refine ⟨usable.sound.eval now r, fun t later e live => ?_⟩
  obtain ⟨stored, unexpired⟩ := Option.filter_eq_some_iff.1 live
  rcases put_of_stored_eval stored with kept | ⟨a, asked, -, put⟩
  · exact usable.only t later e (Option.filter_eq_some_iff.2 ⟨kept, unexpired⟩)
  · have worked := (requests.action asked).1
    rw [Action.kind?_of_put put] at worked
    exact Option.some.inj worked

theorem on {α : Type} {o : Queue.Operation α} (usable : k.Usable start key kind)
    (sends : o.Sends (kind.Requests key)) (now : Nat) :
    (o.on k now).2.Usable start key kind := by
  cases o with
  | error => exact usable
  | ok x => exact usable.eval (sends x rfl) now

/-- A request to work on a key as on one of its kind is answered with a reply. -/
theorem answered (usable : k.Usable start key kind) (later : start ≤ now) {r : Request}
    {a : Action} (requests : kind.Requests key r) (asked : Action.ofRequest r = .ok a) :
    ∃ reply, (k.eval now r).1 = .ok reply := by
  obtain ⟨worked, named⟩ := requests.action asked
  rw [fst_eval k now asked named]
  refine Action.effect_of_kind now named fun e live => ?_
  rw [worked, usable.only now later e live]

/-- What can be used as a delayed queue is absent or holds a sorted set. -/
theorem sorted (usable : k.Usable start key .sorted) (later : start ≤ now) :
    ∀ e ∈ k.live? now key, ∃ set, e.value = .sorted set := by
  intro e live
  have kind := usable.only now later e live
  cases holds : e.value with
  | sorted set => exact ⟨set, rfl⟩
  | text | list =>
    rw [holds] at kind
    cases kind

end Usable

/-- Where something waits, something is the first. -/
theorem Sound.exists_isFirst (sound : k.Sound) {p : String} {date : Int}
    (waits : k.waiting key p = some date) :
    ∃ p' date', (k.waiting key).IsFirst p' date' ∧ date' ≤ date := by
  have kept := sound key
  unfold waiting at waits ⊢
  generalize k.entries[key]? = stored at kept waits
  rcases stored with _ | ⟨_ | _ | set, _⟩
  · cases waits
  · cases waits
  · cases waits
  have agrees : set.Agrees := by
    cases kept _ rfl with
    | sorted agrees => exact agrees
  cases first : set.first? with
  | none => cases (agrees.first?_eq_none.1 first p).symm.trans waits
  | some slot =>
    have least := agrees.first?_eq_some.1 first
    refine ⟨slot.payload, slot.score, least, ?_⟩
    rcases least.2 p date waits with before | ⟨same, -⟩
    · exact before.le
    · exact same.le

end Keyspace

namespace Queue

/-- Carries operations out on a store, each at its point of time : their results, and the store
after them. -/
def Operation.run {α : Type} : List (Nat × Operation α) → Keyspace →
    List (Except Error α) × Keyspace
  | [], k => ([], k)
  | (now, o) :: rest, k =>
    let (result, k) := o.on k now
    let (results, k) := Operation.run rest k
    (result :: results, k)

variable {q : Queue} {k : Keyspace} {start now : Nat} {name : String}

/-- A key stays usable over a whole series of operations that work on it as on one of its kind. -/
theorem usable_run {α : Type} {key : String} {kind : Kind} {ops : List (Nat × Operation α)}
    (usable : k.Usable start key kind) (sends : ∀ x ∈ ops, x.2.Sends (kind.Requests key)) :
    (Operation.run ops k).2.Usable start key kind := by
  induction ops generalizing k with
  | nil => exact usable
  | cons x ops ih =>
    rw [List.forall_mem_cons] at sends
    exact ih (usable.on sends.1 x.1) sends.2

section Lists

variable (named : Text.isBlank name = false)

include named

theorem listKey_of_not_isBlank : q.listKey name = .ok (keyIn q.settings.space name) := by
  simp [listKey, checkedKey, named]

variable (usable : k.Usable start (keyIn q.settings.space name) .list) (later : start ≤ now)

include usable later

/-- A payload joins the line at its end. -/
theorem enqueue_on (payload : String) :
    let key := keyIn q.settings.space name
    let done := (q.enqueue name payload).on k now
    done.1 = .ok () ∧ done.2.line key = k.line key ++ [payload] := by
  intro key done
  let request := Command.push.request [key] [payload]
  have asked : Action.ofRequest request = .ok (.push key payload) := rfl
  obtain ⟨reply, answered⟩ := usable.answered later ⟨.push, _, rfl, rfl⟩ asked
  have carried : done = (.ok (), (k.eval now request).2) := by
    simp only [done, enqueue, listKey_of_not_isBlank named, Except.map, Operation.on,
      Exchange.ofReply]
    rw [answered]
    rfl
  rw [carried]
  refine ⟨rfl, ?_⟩
  have step := usable.sound.step_line_eval now key request
  rw [answered] at step
  exact step.push_of_reply asked

/-- The first payload in line is handed out. -/
theorem dequeue_on :
    let key := keyIn q.settings.space name
    let done := (q.dequeue name).on k now
    done.1 = .ok (k.line key).head? ∧ done.2.line key = (k.line key).tail := by
  intro key done
  let request := Command.pop.request [key] []
  have asked : Action.ofRequest request = .ok (.pop key) := rfl
  obtain ⟨reply, answered⟩ := usable.answered later ⟨.pop, _, rfl, rfl⟩ asked
  have step := usable.sound.step_line_eval now key request
  rw [answered] at step
  obtain ⟨rfl, after⟩ := step.pop_of_reply asked
  have carried : done = (.ok (k.line key).head?, (k.eval now request).2) := by
    simp only [done, dequeue, listKey_of_not_isBlank named, Except.map, Operation.on, payloadOf,
      Exchange.ofReply]
    rw [answered]
    cases (k.line key).head? <;> rfl
  rw [carried]
  exact ⟨rfl, after⟩

end Lists

end Queue

end Turnstile
