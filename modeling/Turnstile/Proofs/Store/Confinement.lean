import Turnstile.Proofs.Store.Separation

/-!
# What an evaluation cannot reach

A request may fail for many reasons : an unknown script, a key or an argument that is missing, a
number that is none or out of range, a lease that is not positive, a key of the wrong type. Some
are found before the keyspace is touched and some after, and every 256th evaluation sweeps it
besides. `eval_confined` : a request that fails leaves every key as clients see it, its value and
its expiry, and any request leaves the keys so that it does not name.

The same holds of runs : a key stays as clients see it as long as all requests that name it fail
and nobody takes everything out (`Keyspace.live?_replay_of_spares`).
-/

namespace Turnstile

/-- Going by what it showed, an access cannot have changed a key. -/
def Access.Spares (key : String) : Access → Seen → Prop
  | .eval _, .answer (.error _) => True
  | .eval r, _ => key ∉ r.keys
  | .contains _, _ | .timeLeft _, _ => True
  | .clear, _ => False

namespace Keyspace

variable {k : Keyspace} {key : String}

/-- An access that spares a key leaves it as clients see it. -/
theorem live?_access_of_spares {now : Nat} {x : Access}
    (spares : x.Spares key (k.access now x).1) :
    (k.access now x).2.live? now key = k.live? now key := by
  cases x with
  | eval r =>
    cases answered : (k.eval now r).1 with
    | error e => exact live?_eval_of_error answered key
    | ok reply =>
      refine k.live?_eval_of_notMem now ?_
      simpa only [access, answered, Access.Spares] using spares
  | contains other => exact k.live?_touch now other key
  | timeLeft other => exact k.live?_touch now other key
  | clear => exact spares.elim

/-- A run in which every access spares a key leaves it as clients see it. -/
theorem live?_replay_of_spares {run : List (Nat × Access)} {t : Nat}
    (spares : ∀ y ∈ shown run k, y.1.2.Spares key y.2) (before : ∀ x ∈ run, x.1 ≤ t) :
    (replay access run k).2.live? t key = k.live? t key := by
  induction run generalizing k with
  | nil => rfl
  | cons x run ih =>
    obtain ⟨now, x⟩ := x
    rw [shown_cons] at spares
    obtain ⟨first, spares⟩ := List.forall_mem_cons.1 spares
    obtain ⟨past, before⟩ := List.forall_mem_cons.1 before
    calc
      _ = (k.access now x).2.live? t key := ih spares before
      _ = k.live? t key := live?_congr_later (live?_access_of_spares first) past

end Keyspace

/-- A request that fails changes no key, and one that succeeds changes only keys that it names. This
holds in every keyspace, for every script, known or not, with any keys and arguments, and for what
clients see of a key from then on, its value as well as its expiry.

So no run changes a key in which all requests that name it fail and nobody takes everything out,
whatever else is done and whenever. -/
theorem eval_confined (k : Keyspace) (now : Nat) (r : Request) :
    (∀ e, (k.eval now r).1 = .error e →
      ∀ key t, now ≤ t → (k.eval now r).2.live? t key = k.live? t key) ∧
    (∀ key ∉ r.keys, ∀ t, now ≤ t → (k.eval now r).2.live? t key = k.live? t key) ∧
    ∀ key (run : List (Nat × Access)) t, (∀ y ∈ shown run k, y.1.2.Spares key y.2) →
      (∀ x ∈ run, x.1 ≤ t) → (replay Keyspace.access run k).2.live? t key = k.live? t key := by
  have kept {key : String} {t : Nat} (le : now ≤ t)
      (spares : (Access.eval r).Spares key (k.access now (.eval r)).1) :
      (k.eval now r).2.live? t key = k.live? t key :=
    Keyspace.live?_congr_later (Keyspace.live?_access_of_spares spares) le
  refine ⟨fun e failed key t le => kept le ?failed, fun key unnamed t le => kept le ?unnamed,
    fun key run t spares before => Keyspace.live?_replay_of_spares spares before⟩
  case failed =>
    simp only [Keyspace.access, failed, Access.Spares]
  case unnamed =>
    unfold Keyspace.access
    dsimp only
    cases (k.eval now r).1 with
    | error e => trivial
    | ok reply => exact unnamed

/-- A lock beside a queue. -/
def lockBesideQueue : Keyspace :=
  Keyspace.put (Keyspace.put {} "x" ⟨.text "h:1.1:1", some 30⟩) "q" ⟨.list ["p"], none⟩

theorem eval_confined_lockBesideQueue :
    let onLock : Request := Command.push.request ["x"] ["p"]
    let onQueue : Request := Command.push.request ["q"] ["p"]
    let failing := lockBesideQueue.eval 0 onLock
    let pushing := lockBesideQueue.eval 0 onQueue
    let run : List (Nat × Access) := [(5, .eval onLock), (7, .eval onQueue), (9, .timeLeft "x")]
    failing.1 = .error (.wrongType "x") ∧
      (∀ key t, failing.2.live? t key = lockBesideQueue.live? t key) ∧
      pushing.1 = .ok (.int 2) ∧
      (∀ t, pushing.2.live? t "x" = lockBesideQueue.live? t "x") ∧
      ∀ t, 9 ≤ t →
        (replay Keyspace.access run lockBesideQueue).2.live? t "x" =
          lockBesideQueue.live? t "x" := by
  intro onLock onQueue failing pushing run
  have failed : failing.1 = .error (.wrongType "x") := by rfl
  have shows : shown run lockBesideQueue =
      [((5, .eval onLock), .answer (.error (.wrongType "x"))),
        ((7, .eval onQueue), .answer (.ok (.int 2))), ((9, .timeLeft "x"), .span? (some 21))] := by
    rfl
  obtain ⟨fails, -, runs⟩ := eval_confined lockBesideQueue 0 onLock
  obtain ⟨-, others, -⟩ := eval_confined lockBesideQueue 0 onQueue
  refine ⟨failed, fun key t => fails _ failed key t (Nat.zero_le t), by rfl,
    fun t => others "x" (by decide) t (Nat.zero_le t), fun t late => runs "x" run t ?_ ?_⟩
  · rw [shows]
    simp [Access.Spares, onQueue, Command.request]
  · simp only [run, List.forall_mem_cons, List.not_mem_nil, false_imp_iff, implies_true, and_true]
    omega

end Turnstile
