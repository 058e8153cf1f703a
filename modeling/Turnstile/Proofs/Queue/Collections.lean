import Mathlib.Data.List.TFAE
import Mathlib.Tactic.TFAE
import Turnstile.Proofs.Kinds
import Turnstile.Proofs.Queue.Dates

/-!
# The two collections of a queue

Each queue name has a list and a sorted set, under keys of two key spaces. The key spaces differ,
and so do the two keys of one name. Two names, however, can share a key : the list of one and the
sorted set of the other, if one key space lies inside the other (`Inside`, `keyIn_eq_iff`). Then
what is done to one of them is refused, or lost, because of the other.

Key spaces of which neither lies inside the other are `Queue.Apart`. `collections_apart` : this
is what it takes for the two collections never to meet, and each of the ways in which they could
be seen to meet says the same.
-/

namespace Turnstile

/-! ## Keys of two key spaces -/

/-- A key space whose keys are also keys of another, of longer names. -/
def Inside (inner outer : String) : Prop := ∃ t, inner = keyIn outer t

theorem keyIn_keyIn (space t name : String) :
    keyIn (keyIn space t) name = keyIn space (keyIn t name) := by
  simp [keyIn, String.append_assoc]

theorem toList_keyIn (space name : String) :
    (keyIn space name).toList = space.toList ++ ':' :: name.toList := by
  simp [keyIn]

theorem inside_iff_prefix {inner outer : String} :
    Inside inner outer ↔ outer.toList ++ [':'] <+: inner.toList := by
  constructor
  · rintro ⟨t, rfl⟩
    exact ⟨t.toList, by simp [toList_keyIn]⟩
  · rintro ⟨rest, parts⟩
    refine ⟨String.ofList rest, String.toList_inj.1 ?_⟩
    simp [toList_keyIn, ← parts]

instance (inner outer : String) : Decidable (Inside inner outer) :=
  decidable_of_iff _ inside_iff_prefix.symm

/-- Where a row that goes on with a colon is the longer one, the names make up for it. -/
theorem eq_keyIn_of_append {space space' a b : String} {m : List Char} (ne : space ≠ space')
    (longer : space'.toList = space.toList ++ m) (rest : ':' :: a.toList = m ++ ':' :: b.toList) :
    ∃ t, space' = keyIn space t ∧ a = keyIn t b := by
  cases m with
  | nil =>
    rw [List.append_nil] at longer
    exact absurd (String.toList_inj.1 longer).symm ne
  | cons c m =>
    obtain ⟨rfl, name⟩ := List.cons.inj rest
    refine ⟨String.ofList m, String.toList_inj.1 ?_, String.toList_inj.1 ?_⟩
    · simp [toList_keyIn, longer]
    · simpa [toList_keyIn] using name

/-- Names of two key spaces share a key only if what one key space has more is what the other
name has more. -/
theorem keyIn_eq_iff {space space' a b : String} (ne : space ≠ space') :
    keyIn space a = keyIn space' b ↔ ∃ t,
      space' = keyIn space t ∧ a = keyIn t b ∨ space = keyIn space' t ∧ b = keyIn t a := by
  constructor
  · intro same
    have same := congrArg String.toList same
    rw [toList_keyIn, toList_keyIn, List.append_eq_append_iff] at same
    rcases same with ⟨m, longer, rest⟩ | ⟨m, longer, rest⟩
    · obtain ⟨t, parts⟩ := eq_keyIn_of_append ne longer rest
      exact ⟨t, .inl parts⟩
    · obtain ⟨t, parts⟩ := eq_keyIn_of_append ne.symm longer rest
      exact ⟨t, .inr parts⟩
  · rintro ⟨t, ⟨rfl, rfl⟩ | ⟨rfl, rfl⟩⟩
    · exact (keyIn_keyIn ..).symm
    · exact keyIn_keyIn ..

theorem keyIn_ne_of_ne {space space' : String} (ne : space ≠ space') (name : String) :
    keyIn space name ≠ keyIn space' name := by
  intro same
  rw [keyIn, keyIn, String.append_left_inj, String.append_left_inj] at same
  exact ne same

theorem isBlank_keyIn (space name : String) : Text.isBlank (keyIn space name) = false := by
  have colon : Text.isSpace ':' = false := by decide
  simp [Text.isBlank, toList_keyIn, colon]

namespace Queue

variable {q : Queue}

theorem space_ne (q : Queue) : q.settings.space ≠ q.settings.delayedSpace := by
  have valid := q.valid
  unfold QueueSettings.invalid? at valid
  split at valid
  · cases valid
  · split at valid
    · cases valid
    · assumption

/-- Neither key space of a queue lies inside the other. -/
def Apart (q : Queue) : Prop :=
  ¬Inside q.settings.delayedSpace q.settings.space ∧
    ¬Inside q.settings.space q.settings.delayedSpace

instance (q : Queue) : Decidable q.Apart := inferInstanceAs (Decidable (_ ∧ _))

/-- The default key spaces are apart. -/
theorem apart_default : Queue.Apart ⟨{}, rfl⟩ := by decide

theorem Apart.keyIn_ne (apart : q.Apart) (a b : String) :
    keyIn q.settings.space a ≠ keyIn q.settings.delayedSpace b := by
  intro same
  obtain ⟨t, ⟨inside, -⟩ | ⟨inside, -⟩⟩ := (keyIn_eq_iff q.space_ne).1 same
  · exact apart.1 ⟨t, inside⟩
  · exact apart.2 ⟨t, inside⟩

/-! ## Requests -/

/-- The settings of a process, as far as a queue has them. -/
def scope (q : Queue) : Settings := { queue := q.settings }

/-- The requests that the operations of a queue make. -/
inductive Makes (q : Queue) : Request → Prop
  | onCollection {kind : Kind} {name : String} {r : Request} (ofQueue : kind ≠ .lock)
    (asks : Asks q.scope kind name r) : Makes q r
  | destroy {name : String} {x : Exchange Event Error Bool} (sent : q.destroy name = .ok x) :
    Makes q x.request

/-- The keys of both collections of all names. -/
def keys (q : Queue) : Set String :=
  {key | ∃ kind ≠ Kind.lock, ∃ name, key = keyIn (kind.space q.scope) name}

/-- An access is one of a queue, or asks for none of its keys. -/
def Allows (q : Queue) (x : Access) : Prop :=
  ∀ r, x = .eval r → q.Makes r ∨ ∀ key ∈ r.keys, key ∉ q.keys

theorem requests_of_asks {kind : Kind} {name : String} {r : Request} (ofQueue : kind ≠ .lock)
    (asks : Asks q.scope kind name r) : kind.Requests (keyIn (kind.space q.scope) name) r := by
  cases asks with
  | ofLock | owner | isLocked => exact absurd rfl ofQueue
  | ofList own listed sent =>
    have requests := listed.sends _ sent
    rwa [own] at requests
  | ofSorted own sorted sent =>
    have requests := sorted.sends _ sent
    rwa [own] at requests

/-- A deletion asks for both keys of its name. -/
theorem request_of_destroy {name : String} {x : Exchange Event Error Bool}
    (sent : q.destroy name = .ok x) :
    x.request = Command.destroy.request
      [keyIn q.settings.space name, keyIn q.settings.delayedSpace name] [] := by
  unfold destroy bothKeys listKey delayedKey checkedKey at sent
  cases blank : Text.isBlank name with
  | true =>
    rw [blank] at sent
    cases sent
  | false =>
    rw [blank] at sent
    obtain rfl := Except.ok.inj sent
    rfl

/-- The keys of a store hold what the queue keeps under them. -/
def Tidy (q : Queue) (k : Keyspace) : Prop :=
  ∀ kind ≠ Kind.lock, ∀ name, k.Holds (keyIn (kind.space q.scope) name) kind

theorem tidy_empty (q : Queue) : q.Tidy {} :=
  fun kind _ name => Keyspace.holds_empty (keyIn (kind.space q.scope) name) kind

/-- Requests of the queue on a tidy store are not refused for what their keys hold. -/
theorem Makes.ne_wrongType {r : Request} (made : q.Makes r) {k : Keyspace} (tidy : q.Tidy k)
    (now : Nat) (key : String) : (k.eval now r).1 ≠ .error (.wrongType key) := by
  refine Keyspace.eval_ne_wrongType now (fun a key asked named => ?_) key
  cases made with
  | @onCollection kind name _ ofQueue asks =>
    obtain ⟨worked, own⟩ := (requests_of_asks ofQueue asks).action asked
    obtain rfl := Option.some.inj (own.symm.trans named)
    exact ⟨kind, worked, tidy kind ofQueue name⟩
  | destroy sent =>
    rw [request_of_destroy sent] at asked
    cases asked
    cases named

/-! ## Key spaces that are apart -/

section Apart

variable (apart : q.Apart)

include apart

/-- A key is of one kind only. -/
theorem Apart.kind_eq {kind kind' : Kind} {a b : String} (ofQueue : kind ≠ .lock)
    (ofQueue' : kind' ≠ .lock)
    (same : keyIn (kind.space q.scope) a = keyIn (kind'.space q.scope) b) : kind = kind' := by
  cases kind with
  | lock => exact absurd rfl ofQueue
  | list =>
    cases kind' with
    | lock => exact absurd rfl ofQueue'
    | list => rfl
    | sorted => exact absurd same (apart.keyIn_ne a b)
  | sorted =>
    cases kind' with
    | lock => exact absurd rfl ofQueue'
    | list => exact absurd same.symm (apart.keyIn_ne b a)
    | sorted => rfl

/-- A key of a queue is worked on as on one of its kind. -/
theorem Apart.suits {x : Access} (allows : q.Allows x) {kind : Kind} (ofQueue : kind ≠ .lock)
    (name : String) : x.Suits (keyIn (kind.space q.scope) name) kind := by
  cases x with
  | eval r =>
    intro a asked named
    rcases allows r rfl with made | others
    · cases made with
      | @onCollection kind' name' _ ofQueue' asks =>
        obtain ⟨worked, own⟩ := (requests_of_asks ofQueue' asks).action asked
        have same := Option.some.inj (own.symm.trans named)
        rw [worked, apart.kind_eq ofQueue' ofQueue same]
      | destroy sent =>
        rw [request_of_destroy sent] at asked
        cases asked
        cases named
    · have own : keyIn (kind.space q.scope) name ∈ a.keys := by
        simp [Action.keys_of_key? named]
      exact absurd ⟨kind, ofQueue, name, rfl⟩
        (others _ (Action.mem_keys_of_ofRequest asked own))
  | contains | timeLeft | clear => trivial

/-- Nothing that a queue asks for is refused for what a key holds. -/
theorem Apart.ne_wrongType {run : List (Nat × Access)} (allows : ∀ x ∈ run, q.Allows x.2)
    {k : Keyspace} (tidy : q.Tidy k) :
    ∀ y ∈ shown run k, ∀ r, y.1.2 = .eval r → q.Makes r →
      ∀ key, y.2 ≠ .answer (.error (.wrongType key)) := by
  induction run generalizing k with
  | nil => simp [shown, replay]
  | cons x run ih =>
    obtain ⟨first, allows⟩ := List.forall_mem_cons.1 allows
    -- the store stays tidy, so the rest of the run is one from a tidy store
    have kept : q.Tidy (k.access x.1 x.2).2 := fun kind ofQueue name =>
      (tidy kind ofQueue name).access (apart.suits first ofQueue name) x.1
    intro y mem r asked made key
    rcases List.mem_cons.1 mem with rfl | later
    · intro refused
      obtain ⟨now, access⟩ := x
      cases asked
      exact made.ne_wrongType tidy now key (Seen.answer.inj refused)
    · exact ih allows kept y later r asked made key

/-- What operations on the collections of one kind show does not depend on those of the other. -/
theorem Apart.shown_filter {own other : Kind} (ofQueue : own ≠ .lock) (ofQueue' : other ≠ .lock)
    (ne : own ≠ other) (k : Keyspace) {keep : Nat × Access → Bool} {run : List (Nat × Access)}
    (ordered : run.Pairwise fun x y => x.1 ≤ y.1)
    (asks : ∀ x ∈ run, AsksOn q.scope (if keep x then own else other) Set.univ x) :
    (shown run k).filter (fun y => keep y.1) = shown (run.filter keep) k := by
  refine shown_filter_keep k (keyIn (own.space q.scope) '' Set.univ) ordered ?within ?removed
  case within =>
    intro x mem keeps
    have asks := asks x mem
    rw [if_pos keeps] at asks
    exact asks.within
  case removed =>
    intro x mem drops
    have asks := asks x mem
    rw [drops] at asks
    obtain ⟨name, -, r, asks, eval⟩ := asks
    rw [eval]
    intro key named
    rw [asks.keys, List.mem_singleton] at named
    rintro ⟨name', -, same⟩
    exact ne (apart.kind_eq ofQueue ofQueue' (same.trans named))

/-- The deletion of a name leaves the collections of the others. -/
theorem Apart.live?_destroy {a b : String} (ne : a ≠ b) (k : Keyspace) (now : Nat) {kind : Kind}
    (ofQueue : kind ≠ .lock) :
    ((q.destroy a).on k now).2.live? now (keyIn (kind.space q.scope) b) =
      k.live? now (keyIn (kind.space q.scope) b) := by
  cases sent : q.destroy a with
  | error e => rfl
  | ok x =>
    refine k.live?_eval_of_notMem now ?_
    rw [request_of_destroy sent]
    intro mem
    have own (kind' : Kind) (ofQueue' : kind' ≠ .lock)
        (same : keyIn (kind.space q.scope) b = keyIn (kind'.space q.scope) a) : False := by
      obtain rfl := apart.kind_eq ofQueue ofQueue' same
      exact ne (keyIn_injective _ same).symm
    rcases List.mem_cons.1 mem with same | mem
    · exact own .list (by decide) same
    · exact own .sorted (by decide) (List.mem_singleton.1 mem)

end Apart

/-! ## Names that share a key -/

/-- A payload is put in the sorted set of a name. -/
def scheduling (q : Queue) (name : String) : Nat × Access :=
  (0, .eval (Command.delayedPush.request [keyIn q.settings.delayedSpace name] ["p", "0"]))

/-- A payload is put in the list of a name. -/
def queueing (q : Queue) (name : String) : Nat × Access :=
  (1, .eval (Command.push.request [keyIn q.settings.space name] ["p"]))

theorem asksOn_scheduling {name : String} (named : Text.isBlank name = false) :
    AsksOn q.scope .sorted Set.univ (q.scheduling name) := by
  have sent : ∃ x, q.enqueueDelayed name "p" 0 = .ok x ∧
      .eval x.request = (q.scheduling name).2 := by
    rw [enqueueDelayed, delayedKey_of_not_isBlank named]
    exact ⟨_, rfl, rfl⟩
  obtain ⟨x, sent, request⟩ := sent
  exact ⟨name, trivial, x.request, .ofSorted (q := q) rfl (.enqueue "p" 0) sent, request.symm⟩

theorem asksOn_queueing {name : String} (named : Text.isBlank name = false) :
    AsksOn q.scope .list Set.univ (q.queueing name) := by
  have sent : ∃ x, q.enqueue name "p" = .ok x ∧ .eval x.request = (q.queueing name).2 := by
    rw [enqueue, listKey, checkedKey, named]
    exact ⟨_, rfl, rfl⟩
  obtain ⟨x, sent, request⟩ := sent
  exact ⟨name, trivial, x.request, .ofList (q := q) rfl (.enqueue "p") sent, request.symm⟩

theorem allows_of_asksOn {kind : Kind} (ofQueue : kind ≠ .lock) {x : Nat × Access}
    (asks : AsksOn q.scope kind Set.univ x) : q.Allows x.2 := by
  obtain ⟨name, -, r, asks, eval⟩ := asks
  intro r' asked
  obtain rfl := Access.eval.inj (eval.symm.trans asked)
  exact .inl (.onCollection ofQueue asks)

theorem seen_queueing (q : Queue) (name : String) (k : Keyspace) :
    (k.access 1 (q.queueing name).2).1 =
      .answer ((Action.push (keyIn q.settings.space name) "p").effect 1
        (k.live? 1 (keyIn q.settings.space name))).1 := by
  have asked : Action.ofRequest (Command.push.request [keyIn q.settings.space name] ["p"]) =
      .ok (.push (keyIn q.settings.space name) "p") :=
    Action.ofRequest_eq_push_iff.2 ⟨rfl, rfl, rfl⟩
  exact congrArg Seen.answer (k.fst_eval 1 asked rfl)

/-- A sorted set is where a payload was put in it. -/
theorem live?_scheduling (q : Queue) (name : String) (now : Nat) :
    ∃ set, (Keyspace.access 0 (q.scheduling name).2 {}).2.live? now
      (keyIn q.settings.delayedSpace name) = some ⟨.sorted set, none⟩ := by
  have asked : Action.ofRequest
      (Command.delayedPush.request [keyIn q.settings.delayedSpace name] ["p", "0"]) =
      .ok (.delayedPush (keyIn q.settings.delayedSpace name) "p" 0) :=
    Action.ofRequest_eq_delayedPush_iff.2 ⟨rfl, rfl, rfl, "0", rfl, rfl⟩
  have absent : ({} : Keyspace).live? 0 (keyIn q.settings.delayedSpace name) = none :=
    Keyspace.live?_clear {} 0 _
  have live : (Keyspace.access 0 (q.scheduling name).2 {}).2.live? 0
      (keyIn q.settings.delayedSpace name) =
      some ⟨.sorted (SortedSet.insert {} "p" 0), none⟩ := by
    refine (Keyspace.live?_eval {} 0 asked rfl _).trans ?_
    rw [if_pos rfl, absent]
    rfl
  exact ⟨_, by rw [Keyspace.live?_later _ _ (Nat.zero_le now), live]; rfl⟩

/-- Where a sorted set is, a payload is not put in a list. -/
theorem mem_shown_crossing {a b : String}
    (same : keyIn q.settings.space a = keyIn q.settings.delayedSpace b) :
    (q.queueing a, .answer (.error (.wrongType (keyIn q.settings.space a)))) ∈
      shown [q.scheduling b, q.queueing a] {} := by
  obtain ⟨set, live⟩ := q.live?_scheduling b 1
  have refused : (Keyspace.access 1 (q.queueing a).2
      (Keyspace.access 0 (q.scheduling b).2 {}).2).1 =
      .answer (.error (.wrongType (keyIn q.settings.space a))) := by
    rw [seen_queueing, same, live]
    rfl
  rw [shown_cons, shown_cons, ← refused]
  exact List.mem_cons_of_mem _ (List.mem_cons_self ..)

theorem live?_destroyed (q : Queue) {name : String} (named : Text.isBlank name = false)
    (k : Keyspace) (now : Nat) :
    ((q.destroy name).on k now).2.live? now (keyIn q.settings.space name) = none := by
  have sent : ∃ x, q.destroy name = .ok x := by
    rw [destroy, bothKeys, listKey, checkedKey, named, delayedKey_of_not_isBlank named]
    exact ⟨_, rfl⟩
  obtain ⟨x, sent⟩ := sent
  have asked : Action.ofRequest x.request =
      .ok (.destroy [keyIn q.settings.space name, keyIn q.settings.delayedSpace name]) := by
    rw [request_of_destroy sent]
    rfl
  rw [sent]
  change (k.eval now x.request).2.live? now _ = none
  rw [Keyspace.eval_of_ok k now asked, Keyspace.perform, Keyspace.live?_destroy]
  exact if_pos (List.mem_cons_self ..)

/-! ## All together -/

/-- The list of no name has the key of a sorted set. -/
def SharesNoKey (q : Queue) : Prop :=
  ∀ a b, Text.isBlank a = false → Text.isBlank b = false →
    keyIn q.settings.space a ≠ keyIn q.settings.delayedSpace b

/-- No operation is refused for what a key holds, whatever else is done to other keys. -/
def NeverRefused (q : Queue) : Prop :=
  ∀ run : List (Nat × Access), (∀ x ∈ run, q.Allows x.2) →
    ∀ y ∈ shown run {}, ∀ r, y.1.2 = .eval r → q.Makes r →
      ∀ key, y.2 ≠ .answer (.error (.wrongType key))

/-- What operations on the collections of one kind show does not depend on those of the other. -/
def KindsIndependent (q : Queue) : Prop :=
  ∀ own other : Kind, own ≠ .lock → other ≠ .lock → own ≠ other →
    ∀ (k : Keyspace) (keep : Nat × Access → Bool) (run : List (Nat × Access)),
      (run.Pairwise fun x y => x.1 ≤ y.1) →
      (∀ x ∈ run, AsksOn q.scope (if keep x then own else other) Set.univ x) →
      (shown run k).filter (fun y => keep y.1) = shown (run.filter keep) k

/-- The deletion of a name leaves both collections of every other name. -/
def DeletesOwn (q : Queue) : Prop :=
  ∀ a b, a ≠ b → ∀ (k : Keyspace) (now : Nat), ∀ kind ≠ Kind.lock,
    ((q.destroy a).on k now).2.live? now (keyIn (kind.space q.scope) b) =
      k.live? now (keyIn (kind.space q.scope) b)

theorem SharesNoKey.apart (sharesNone : q.SharesNoKey) : q.Apart := by
  constructor
  · rintro ⟨t, inside⟩
    refine sharesNone (keyIn t "x") "x" (isBlank_keyIn t "x") (by decide) ?_
    rw [inside, keyIn_keyIn]
  · rintro ⟨t, inside⟩
    refine sharesNone "x" (keyIn t "x") (by decide) (isBlank_keyIn t "x") ?_
    rw [inside, keyIn_keyIn]

theorem NeverRefused.sharesNoKey (never : q.NeverRefused) : q.SharesNoKey := by
  intro a b named named' same
  have sorted := asksOn_scheduling (q := q) named'
  have list := asksOn_queueing (q := q) named
  have allows : ∀ x ∈ [q.scheduling b, q.queueing a], q.Allows x.2 := by
    simp [allows_of_asksOn (by decide) sorted, allows_of_asksOn (by decide) list]
  obtain ⟨name, -, r, asks, eval⟩ := list
  have ofQueue : Kind.list ≠ .lock := by decide
  have made : q.Makes r := .onCollection ofQueue asks
  exact never _ allows _ (mem_shown_crossing same) r eval made _ rfl

theorem KindsIndependent.sharesNoKey (independent : q.KindsIndependent) : q.SharesNoKey := by
  intro a b named named' same
  -- the two accesses of the run are told apart by their points of time
  let isQueueing (x : Nat × Access) : Bool := x.1 = 1
  have asks : ∀ x ∈ [q.scheduling b, q.queueing a],
      AsksOn q.scope (if isQueueing x then .list else .sorted) Set.univ x := by
    intro x mem
    rcases List.mem_cons.1 mem with rfl | mem
    · exact asksOn_scheduling named'
    · obtain rfl := List.mem_singleton.1 mem
      exact asksOn_queueing named
  have alone := independent .list .sorted (by decide) (by decide) (by decide) {} isQueueing
    [q.scheduling b, q.queueing a] (by simp [scheduling, queueing]) asks
  have refused : (q.queueing a, .answer (.error (.wrongType (keyIn q.settings.space a)))) ∈
      shown [q.queueing a] {} :=
    alone ▸ List.mem_filter.2 ⟨mem_shown_crossing same, rfl⟩
  have answer := (Prod.mk.inj (List.mem_singleton.1 refused)).2
  have absent : ({} : Keyspace).live? 1 (keyIn q.settings.space a) = none :=
    Keyspace.live?_clear {} 1 _
  have taken := q.seen_queueing a {}
  rw [absent] at taken
  cases answer.trans taken

theorem DeletesOwn.sharesNoKey (deletes : q.DeletesOwn) : q.SharesNoKey := by
  intro a b named named' same
  -- as the keys of one name differ, names that share a key are two
  have ne : a ≠ b := by
    rintro rfl
    exact keyIn_ne_of_ne q.space_ne a same
  let k := (Keyspace.access 0 (q.scheduling b).2 {}).2
  obtain ⟨set, live⟩ := q.live?_scheduling b 0
  have kept := deletes a b ne k 0 .sorted (by decide)
  have gone := q.live?_destroyed named k 0
  rw [same] at gone
  cases gone.symm.trans (kept.trans live)

/-- The two collections of a queue, for all valid settings.

* The list of one name and the sorted set of another have the same key exactly if one key space
  lies inside the other and the names make up for the difference.
* The list and the sorted set of one name never have.
* The two key spaces are apart exactly if the collections never meet, in any of these senses : no
  names share a key, no operation is refused because a key holds the wrong kind of value, what is
  done to the lists does not show in the sorted sets nor the other way round, and a deletion
  leaves the collections of the other names. -/
theorem collections_apart (q : Queue) :
    (∀ a b, keyIn q.settings.space a = keyIn q.settings.delayedSpace b ↔ ∃ t,
      q.settings.delayedSpace = keyIn q.settings.space t ∧ a = keyIn t b ∨
        q.settings.space = keyIn q.settings.delayedSpace t ∧ b = keyIn t a) ∧
    (∀ a, keyIn q.settings.space a ≠ keyIn q.settings.delayedSpace a) ∧
    [q.Apart, q.SharesNoKey, q.NeverRefused, q.KindsIndependent, q.DeletesOwn].TFAE := by
  refine ⟨fun a b => keyIn_eq_iff q.space_ne, keyIn_ne_of_ne q.space_ne, ?_⟩
  tfae_have 1 → 3 := fun apart run allows => apart.ne_wrongType allows q.tidy_empty
  tfae_have 1 → 4 := fun apart own other ofQueue ofQueue' ne k keep run =>
    apart.shown_filter ofQueue ofQueue' ne k
  tfae_have 1 → 5 := fun apart a b ne k now kind => apart.live?_destroy ne k now
  tfae_have 2 → 1 := SharesNoKey.apart
  tfae_have 3 → 2 := NeverRefused.sharesNoKey
  tfae_have 4 → 2 := KindsIndependent.sharesNoKey
  tfae_have 5 → 2 := DeletesOwn.sharesNoKey
  tfae_finish

/-- Key spaces of which one lies inside the other are valid, and let a payload in a sorted set
keep payloads out of the list of another name, with which it is deleted. -/
theorem crossed_spaces :
    let q : Queue := ⟨{ space := "q", delayedSpace := "q:d" }, by decide⟩
    let delayed := (q.enqueueDelayed "x" "later" 2000).on {} 0
    delayed.1 = .ok true ∧
      ((q.enqueue "d:x" "now").on {} 0).1 = .ok () ∧
      ((q.enqueue "d:x" "now").on delayed.2 0).1 = .error (.store (.wrongType "q:d:x")) ∧
      ((q.destroy "d:x").on delayed.2 0).1 = .ok true :=
  ⟨by rfl, by rfl, by rfl, by rfl⟩

end Queue

end Turnstile
