import Turnstile.Lock.Wait
import Turnstile.Proofs.Lock.Crew
import Turnstile.Proofs.Store.Separation
import Turnstile.Queue.Item

/-!
# Names are independent

Each name of a lock, of a queue in order or of a queue with dates has one key, which is made
of the key space of its kind and of the name (`keyIn_injective`), and every operation on the
name asks about this key only (`Asks.keys`). Only the deletion of a queue, which is about two
kinds at once, is left aside. So what is seen of some names of a kind does not depend on
what is done under the others (`shown_filter_names`).

A call on a handle asks up to three questions, and what it asks next depends on the answers.
`Crew.alike_run` therefore says for whole runs of handles on one lock that requests which
leave its key alone might as well be missing. All of it together is `names_independent`.
-/

namespace Turnstile

/-- The names in one key space have keys of their own. -/
theorem keyIn_injective (space : String) : Function.Injective (keyIn space) :=
  fun _ _ same => (String.append_right_inj _).1 same

/-! ## The key of an operation -/

/-- What a name can be of. -/
inductive Kind where
  | lock
  | list
  | sorted
deriving DecidableEq, Repr

/-- The kind of what a command works on. A deletion works on all kinds. -/
def Command.kind? : Command → Option Kind
  | acquire | reenter | renew | release | owner => some .lock
  | push | pop | len => some .list
  | delayedPush | delayedPop | delayedRemove | delayedLen => some .sorted
  | destroy => none

/-- A request to work on a key as on one of a kind. -/
def Kind.Requests (kind : Kind) (key : String) (r : Request) : Prop :=
  ∃ (c : Command) (args : List String), r = c.request [key] args ∧ c.kind? = some kind

theorem Kind.Requests.keys {kind : Kind} {key : String} {r : Request}
    (requests : kind.Requests key r) : r.keys = [key] := by
  obtain ⟨c, args, rfl, -⟩ := requests
  rfl

namespace Queue

/-- The operations on the list of a name. -/
inductive OnList (q : Queue) (name : String) : {α : Type} → Operation α → Prop
  | enqueue (payload : String) : OnList q name (q.enqueue name payload)
  | dequeue : OnList q name (q.dequeue name)
  | len : OnList q name (q.len name)
  | isEmpty : OnList q name (q.isEmpty name)
  | enqueueItem {β : Type} (c : Codec β) (item : β) : OnList q name (q.enqueueItem c name item)
  | dequeueItem {β : Type} (c : Codec β) : OnList q name (q.dequeueItem c name)

/-- The operations on the sorted set of a name. -/
inductive OnSorted (q : Queue) (name : String) : {α : Type} → Operation α → Prop
  | enqueue (payload : String) (readyAt : UInt64) :
    OnSorted q name (q.enqueueDelayed name payload readyAt)
  | enqueueAfter (now : UInt64) (payload : String) (delay : Nat) :
    OnSorted q name (q.enqueueAfter now name payload delay)
  | dequeue (now : UInt64) : OnSorted q name (q.dequeueDelayed now name)
  | remove (payload : String) : OnSorted q name (q.remove name payload)
  | len : OnSorted q name (q.delayedLen name)
  | enqueueItem {β : Type} (c : Codec β) (item : β) (readyAt : UInt64) :
    OnSorted q name (q.enqueueItemDelayed c name item readyAt)
  | dequeueItem {β : Type} (now : UInt64) (c : Codec β) :
    OnSorted q name (q.dequeueItemDelayed now c name)

/-- An operation asks about one key only, if it asks at all. -/
def Operation.AsksOnly {α : Type} (key : String) (o : Operation α) : Prop :=
  ∀ x, o = .ok x → x.request.keys = [key]

/-- What is true of the request of an operation, if it makes one. -/
def Operation.Sends {α : Type} (P : Request → Prop) (o : Operation α) : Prop :=
  ∀ x, o = .ok x → P x.request

section Sends

variable {α β : Type} {P : Request → Prop}

/-- An exchange about the key of a checked name is about the key of the name. -/
theorem sends_map {space name : String} {f : String → Exchange Event Error α}
    (holds : P (f (keyIn space name)).request) :
    Operation.Sends P ((checkedKey space name).map f) := by
  intro x sent
  unfold checkedKey at sent
  split at sent
  · cases sent
  · obtain rfl := Except.ok.inj sent
    exact holds

/-- What is made of the result of an operation does not change what it asks. -/
theorem Operation.Sends.andThen {o : Operation α} (sends : o.Sends P)
    (f : α → Except Error β) : Operation.Sends P (o.map fun x => x.andThen f) := by
  rcases o with e | x
  · rintro _ ⟨⟩
  · rintro _ ⟨⟩
    exact sends x rfl

/-- An operation on an item is one on the payload of the item. -/
theorem sends_bind {payload : Except Error β} {o : β → Operation α}
    (sends : ∀ b, (o b).Sends P) : Operation.Sends P (payload.bind o) := by
  rcases payload with e | b
  · rintro _ ⟨⟩
  · exact sends b

end Sends

/-- Operations on a list have the store work on it as on a list. -/
theorem OnList.sends {q : Queue} {name : String} {α : Type} {o : Operation α}
    (listed : q.OnList name o) :
    o.Sends (Kind.list.Requests (keyIn q.settings.space name)) := by
  cases listed with
  | enqueue | dequeue | len => exact sends_map ⟨_, _, rfl, rfl⟩
  | isEmpty =>
    exact Operation.Sends.andThen (o := q.len name) (sends_map ⟨_, _, rfl, rfl⟩) _
  | enqueueItem => exact sends_bind fun _ => sends_map ⟨_, _, rfl, rfl⟩
  | dequeueItem =>
    exact Operation.Sends.andThen (o := q.dequeue name) (sends_map ⟨_, _, rfl, rfl⟩) _

/-- Operations on a sorted set have the store work on it as on a sorted set. -/
theorem OnSorted.sends {q : Queue} {name : String} {α : Type} {o : Operation α}
    (sorted : q.OnSorted name o) :
    o.Sends (Kind.sorted.Requests (keyIn q.settings.delayedSpace name)) := by
  cases sorted with
  | enqueue | enqueueAfter | dequeue | remove | len => exact sends_map ⟨_, _, rfl, rfl⟩
  | enqueueItem => exact sends_bind fun _ => sends_map ⟨_, _, rfl, rfl⟩
  | dequeueItem now =>
    exact Operation.Sends.andThen (o := q.dequeueDelayed now name)
      (sends_map ⟨_, _, rfl, rfl⟩) _

theorem OnList.asksOnly {q : Queue} {name : String} {α : Type} {o : Operation α}
    (listed : q.OnList name o) : o.AsksOnly (keyIn q.settings.space name) :=
  fun x sent => (listed.sends x sent).keys

theorem OnSorted.asksOnly {q : Queue} {name : String} {α : Type} {o : Operation α}
    (sorted : q.OnSorted name o) : o.AsksOnly (keyIn q.settings.delayedSpace name) :=
  fun x sent => (sorted.sends x sent).keys

end Queue

/-- The key space of a kind. -/
def Kind.space (s : Settings) : Kind → String
  | lock => s.lock.space
  | list => s.queue.space
  | sorted => s.queue.delayedSpace

/-- The requests that are made, under common settings, by the operations of a kind on a
name. -/
inductive Asks (s : Settings) : Kind → String → Request → Prop
  | ofLock {source : TokenSource} {thread : Nat} {serials : SerialCounter} {name : String}
    {h : Lock.Handle}
    (made : (Lock.Manager.handle ⟨s.lock, source⟩ thread serials name none).1 = .ok h)
    (stage : Lock.Stage) : Asks s .lock name (stage.request h)
  | owner (source : TokenSource) (name : String) :
    Asks s .lock name (Lock.Manager.owner ⟨s.lock, source⟩ name).request
  | isLocked (source : TokenSource) (name : String) :
    Asks s .lock name (Lock.Manager.isLocked ⟨s.lock, source⟩ name).request
  | ofList {q : Queue} (own : q.settings = s.queue) {name : String} {α : Type}
    {o : Queue.Operation α} (listed : q.OnList name o) {x : Exchange Queue.Event Queue.Error α}
    (sent : o = .ok x) : Asks s .list name x.request
  | ofSorted {q : Queue} (own : q.settings = s.queue) {name : String} {α : Type}
    {o : Queue.Operation α} (sorted : q.OnSorted name o)
    {x : Exchange Queue.Event Queue.Error α} (sent : o = .ok x) : Asks s .sorted name x.request

/-- An operation of a kind on a name asks about the key of the name, and about no other. -/
theorem Asks.keys {s : Settings} {kind : Kind} {name : String} {r : Request}
    (asks : Asks s kind name r) : r.keys = [keyIn (kind.space s) name] := by
  cases asks with
  | ofLock made stage =>
    rw [stage.keys_request, (Lock.Handle.of_make (Lock.Manager.make_of_handle made)).1]
    rfl
  | owner | isLocked => rfl
  | ofList own listed sent =>
    rw [listed.asksOnly _ sent, own]
    rfl
  | ofSorted own sorted sent =>
    rw [sorted.asksOnly _ sent, own]
    rfl

/-- An operation of a kind on one of some names. -/
def AsksOn (s : Settings) (kind : Kind) (names : Set String) (x : Nat × Access) : Prop :=
  ∃ name ∈ names, ∃ r, Asks s kind name r ∧ x.2 = .eval r

section Names

variable {s : Settings} {kind : Kind} {names : Set String} {x : Nat × Access}

theorem AsksOn.within (asks : AsksOn s kind names x) :
    x.2.Within (keyIn (kind.space s) '' names) := by
  obtain ⟨name, mem, r, asks, eval⟩ := asks
  rw [eval]
  intro key named
  rw [asks.keys, List.mem_singleton] at named
  exact ⟨name, mem, named.symm⟩

/-- As no two names share a key, an operation on another name avoids the keys of the names. -/
theorem AsksOn.avoids (some : AsksOn s kind Set.univ x) (others : ¬AsksOn s kind names x) :
    x.2.Avoids (keyIn (kind.space s) '' names) := by
  obtain ⟨name, -, r, asks, eval⟩ := some
  rw [eval]
  intro key named
  rw [asks.keys, List.mem_singleton] at named
  rintro ⟨name', mem, same⟩
  obtain rfl := keyIn_injective _ (same.trans named)
  exact others ⟨name', mem, r, asks, eval⟩

/-- What the operations of a kind on some names show does not depend on those on the others. -/
theorem shown_filter_names (k : Keyspace) {keep : Nat × Access → Bool}
    {run : List (Nat × Access)} (ordered : run.Pairwise fun x y => x.1 ≤ y.1)
    (asks : ∀ x ∈ run, AsksOn s kind Set.univ x)
    (kept : ∀ x ∈ run, keep x = true ↔ AsksOn s kind names x) :
    (shown run k).filter (fun y => keep y.1) = shown (run.filter keep) k := by
  refine shown_filter_keep k (keyIn (kind.space s) '' names) ordered ?within ?removed
  case within => exact fun x mem keeps => ((kept x mem).1 keeps).within
  case removed =>
    intro x mem drops
    exact (asks x mem).avoids fun on => by simp [(kept x mem).2 on] at drops

end Names

/-! ## Handles on one lock -/

namespace Lock

/-- Whether a step is a request of someone else. -/
def Step.isOther {ι : Type} : Step ι → Bool
  | other _ => true
  | _ => false

namespace Crew

variable {ι : Type} (crew : Crew ι)

/-- Two systems that are alike for a crew, whatever else is in their stores. -/
structure Alike (s s' : System ι) : Prop where
  now : s.now = s'.now
  client : s.client = s'.client
  live : crew.live s = crew.live s'

/-- A request that is not about the key of a crew leaves it alone. -/
theorem spares_of_ne {r : Request} {key : String} (keys : r.keys = [key]) (ne : key ≠ crew.key) :
    crew.spares r = true := by
  simp [spares, keys, ne.symm]

variable {crew} [DecidableEq ι] {s s' : System ι}

theorem Alike.other (alike : crew.Alike s s') (r : Request) :
    crew.Alike (crew.step s (.other r)) s' where
  now := by
    unfold step
    dsimp only
    split <;> exact alike.now
  client := (crew.client_other s r).trans alike.client
  live := (crew.live_other s r).trans alike.live

/-- The question of a handle is answered the same in systems that are alike. -/
theorem Alike.ask (alike : crew.Alike s s') (i : ι) :
    crew.Alike (crew.step s (.ask i)) (crew.step s' (.ask i)) := by
  by_cases asking : ∃ op since stage, (s.client i).task = .asking op since stage
  · obtain ⟨op, since, stage, asking⟩ := asking
    have asking' : (s'.client i).task = .asking op since stage := alike.client ▸ asking
    have same : Set.EqOn (s.store.live? s.now) (s'.store.live? s.now) {crew.key} := by
      rintro _ rfl
      exact alike.live.trans (by rw [Crew.live, alike.now])
    obtain ⟨answer, after⟩ := Keyspace.eval_congr same (r := stage.request (crew.handle i))
      (by simp [stage.keys_request, crew.key_handle])
    simp only [Crew.step, asking, asking']
    refine ⟨alike.now, ?_, ?_⟩
    · simp only [alike.client, ← alike.now, answer]
    · simp only [Crew.live, ← alike.now]
      exact after rfl
  · have asking' : ¬∃ op since stage, (s'.client i).task = .asking op since stage :=
      alike.client ▸ asking
    rw [crew.step_ask_of_not s fun op since stage h => asking ⟨op, since, stage, h⟩,
      crew.step_ask_of_not s' fun op since stage h => asking' ⟨op, since, stage, h⟩]
    exact alike

theorem Alike.step (alike : crew.Alike s s') {x : Step ι} (own : x.isOther = false) :
    crew.Alike (crew.step s x) (crew.step s' x) := by
  cases x with
  | act i a =>
    exact ⟨alike.now, by simp only [Crew.step, alike.client, alike.now], alike.live⟩
  | ask i => exact alike.ask i
  | pass span =>
    refine ⟨congrArg (· + span) alike.now, alike.client, ?_⟩
    rw [live_pass, live_pass, alike.live, alike.now]
  | other => cases own

/-- What others do under other keys might as well not have happened. -/
theorem alike_run (steps : List (Step ι)) :
    crew.Alike (crew.run steps) (crew.run (steps.filter fun x => !x.isOther)) := by
  induction steps using List.reverseRecOn with
  | nil => exact ⟨rfl, rfl, rfl⟩
  | append_singleton steps x ih =>
    rw [run_append, List.filter_append]
    cases x with
    | other r => simpa [Step.isOther] using ih.other r
    | _ =>
      simp only [Step.isOther, List.filter_cons_of_pos, List.filter_nil, Bool.not_false, run_append]
      exact ih.step rfl

end Crew

end Lock

/-! ## All together -/

/-- Names are independent, under common settings.

* What accesses to keys of a set show, of any keyspace, does not change when accesses to keys
  outside of it are removed.
* The names of a kind have keys of their own.
* What operations of a kind on some names show does not change when those on other names are
  removed.
* Handles on the lock of a name have the same results, and find the same in its key, when all
  that others ask meanwhile is removed. Nothing that is asked under another name is kept from
  the store. -/
theorem names_independent (s : Settings) :
    (∀ (k : Keyspace) (inside : Set String) [DecidablePred (· ∈ inside)]
        (keep : Nat × Access → Bool) (run : List (Nat × Access)),
      (run.Pairwise fun x y => x.1 ≤ y.1) →
      (∀ x ∈ run, x.2.Within inside ∨ x.2.Avoids inside) →
      (∀ x ∈ run, keep x = false → x.2.Avoids inside) →
      (shown run k).filter (fun y => keep y.1 ∧ y.1.2.Within inside) =
        (shown (run.filter keep) k).filter fun y => y.1.2.Within inside) ∧
    (∀ kind : Kind, Function.Injective (keyIn (kind.space s))) ∧
    (∀ (kind : Kind) (k : Keyspace) (names : Set String) (keep : Nat × Access → Bool)
        (run : List (Nat × Access)),
      (run.Pairwise fun x y => x.1 ≤ y.1) →
      (∀ x ∈ run, AsksOn s kind Set.univ x) →
      (∀ x ∈ run, keep x = true ↔ AsksOn s kind names x) →
      (shown run k).filter (fun y => keep y.1) = shown (run.filter keep) k) ∧
    ∀ {ι : Type} [DecidableEq ι] (crew : Lock.Crew ι) (name : String),
      crew.key = keyIn s.lock.space name →
      (∀ other ≠ name, ∀ r, Asks s .lock other r → crew.spares r = true) ∧
      ∀ steps, crew.Alike (crew.run steps) (crew.run (steps.filter fun x => !x.isOther)) := by
  refine ⟨fun k inside _ keep run => shown_filter k inside, fun kind => keyIn_injective _,
    fun kind k names keep run => shown_filter_names k, fun crew name key => ⟨?_, ?_⟩⟩
  · intro other ne r asks
    refine crew.spares_of_ne asks.keys ?_
    rw [key]
    exact fun same => ne (keyIn_injective _ same)
  · exact crew.alike_run

/-- A lock and a queue in one store. -/
def mixedRun : List (Nat × Access) :=
  [(0, .eval (Command.push.request ["queue:q"] ["p"])),
    (0, .eval (Command.acquire.request ["distributed_lock:x"] ["h:1.1:1", "1"])),
    (0, .eval (Command.pop.request ["queue:q"] [])),
    (0, .timeLeft "distributed_lock:x"),
    (Time.ofMillis 1, .eval (Command.owner.request ["distributed_lock:x"] []))]

/-- The accesses that are about the lock. -/
def ofLock (x : Nat × Access) : Bool := x.2.Within {"distributed_lock:x"}

/-- The first thread takes its lock, while the lock of another name is taken as well. -/
def besideAnother : List (Lock.Step Bool) :=
  .act false (.begin (.call .tryLock)) ::
    .other (Command.acquire.request ["distributed_lock:y"] ["h:1.3:3", "30000"]) ::
    [.ask false, .act false .resume]

theorem names_independent_mixedRun :
    (shown mixedRun {}).filter
        (fun y => ofLock y.1 ∧ y.1.2.Within {"distributed_lock:x"}) =
      [(mixedRun[1], .answer (.ok (.int 1))), (mixedRun[3], .span? (some (Time.ofMillis 1))),
        (mixedRun[4], .answer (.ok .nil))] ∧
    Lock.Crew.twoThreads.spares
      (Command.acquire.request ["distributed_lock:y"] ["h:1.3:3", "30000"]) = true ∧
    Lock.Crew.twoThreads.Alike (Lock.Crew.twoThreads.run besideAnother)
      (Lock.Crew.twoThreads.run (Lock.Step.call false .tryLock 1)) := by
  obtain ⟨accesses, -, -, handles⟩ := names_independent {}
  obtain ⟨spares, alike⟩ := handles Lock.Crew.twoThreads "x" rfl
  refine ⟨?_, ?_, alike besideAnother⟩
  · exact (accesses {} {"distributed_lock:x"} ofLock mixedRun (by decide) (by decide)
      (by decide)).trans (by rfl)
  · have made : (Lock.Manager.handle ⟨{}, ⟨"h", 1⟩⟩ 3 ⟨2, SerialCounter.tokenLimit⟩ "y" none).1 =
        .ok { Lock.Crew.twoThreads.handle false with
          name := "y"
          key := "distributed_lock:y"
          token := TokenSource.token ⟨"h", 1⟩ 3 3 } := rfl
    have asks : Asks {} .lock "y" _ := .ofLock (s := {}) made .acquiring
    exact spares "y" (by decide) _ asks

end Turnstile
