import Mathlib.Logic.Function.Basic
import Turnstile.Proofs.Store.Access
import Turnstile.Proofs.Store.Effect

/-!
# Expiry cannot be observed

The keyspace takes an expired entry out when its key is touched, and every 256th evaluation
takes all of them out. A `Ledger` does neither : it keeps what has expired, counts nothing
and reads an expired entry as absent. `replay_access_eq` : whatever clients do, at points of
time that do not go back, they see the same of both.

The relation that carries the proof is `Ledger.Matches` : the two show the same now. It
holds at every later time as well, since what has expired stays expired
(`Ledger.Matches.later`), and every access keeps it (`Ledger.Matches.access`).
-/

namespace Turnstile

/-- Keys with their entries, expired or not. -/
abbrev Ledger := String → Option Entry

namespace Ledger

/-- The entry of a key, where an expired one counts as absent. -/
def read (s : Ledger) (now : Nat) (key : String) : Option Entry :=
  (s key).filter fun e => !e.isExpired now

/-- Makes a change to the entry of a key. -/
def change (s : Ledger) (key : String) : Change → Ledger
  | .keep => s
  | .put e => Function.update s key (some e)
  | .drop => Function.update s key none

/-- Deletes the keys that exist, and counts them. -/
def destroy (now : Nat) : List String → Ledger → Nat × Ledger
  | [], s => (0, s)
  | key :: keys, s =>
    match s.read now key with
    | some _ =>
      let (count, s) := destroy now keys (s.change key .drop)
      (count + 1, s)
    | none => destroy now keys s

/-- Runs a request. -/
def eval (s : Ledger) (now : Nat) (r : Request) : Answer × Ledger :=
  match Action.ofRequest r with
  | .error e => (.error e, s)
  | .ok a =>
    match a.key? with
    | some key =>
      let (answer, change) := a.effect now (s.read now key)
      (answer, s.change key change)
    | none =>
      let (count, s) := destroy now a.keys s
      (.ok (.int count), s)

/-- An access to the ledger. -/
def access (now : Nat) (access : Access) (s : Ledger) : Seen × Ledger :=
  match access with
  | .eval r =>
    let (answer, s) := s.eval now r
    (.answer answer, s)
  | .contains key => (.flag (s.read now key).isSome, s)
  | .timeLeft key => (.span? (((s.read now key).bind Entry.expiresAt).map (· - now)), s)
  | .clear => (.nothing, fun _ => none)

theorem read_change (s : Ledger) (now : Nat) (key other : String) (c : Change) :
    (s.change key c).read now other =
      if key = other then (c.on (s.read now key)).filter fun e => !e.isExpired now
      else s.read now other := by
  by_cases same : key = other
  · subst same
    cases c <;> simp [change, read, Option.filter_filter]
  · cases c <;> simp [change, read, same, Function.update_of_ne (Ne.symm same)]

/-! ## The same view -/

/-- A keyspace and a ledger show the same. -/
def Matches (now : Nat) (k : Keyspace) (s : Ledger) : Prop :=
  ∀ key, k.live? now key = s.read now key

namespace Matches

variable {now : Nat} {k : Keyspace} {s : Ledger}

theorem empty (now : Nat) : Matches now {} fun _ => none := by
  intro key
  simp [Keyspace.live?, read]

theorem later (m : Matches now k s) {t : Nat} (le : now ≤ t) : Matches t k s := by
  intro key
  rw [Keyspace.live?_later k key le, m key]
  unfold read
  rw [Option.filter_filter]
  congr 1
  funext e
  by_cases expired : e.isExpired now
  · simp [Entry.isExpired_of_le le expired]
  · simp [expired]

theorem tick (m : Matches now k s) : Matches now (k.tick now) s := by
  intro key
  rw [Keyspace.live?_tick, m key]

theorem touch (m : Matches now k s) (key : String) : Matches now (k.touch now key) s := by
  intro other
  rw [Keyspace.live?_touch, m other]

theorem change (m : Matches now k s) (key : String) (c : Change) :
    Matches now (k.change key c) (s.change key c) := by
  intro other
  rw [Keyspace.live?_change, read_change, m key, m other]

/-- Deleting keys one after the other counts the same on both sides. -/
theorem destroy (m : Matches now k s) : ∀ keys : List String,
    (Keyspace.destroy now keys k).1 = (Ledger.destroy now keys s).1 ∧
      Matches now (Keyspace.destroy now keys k).2 (Ledger.destroy now keys s).2 := by
  intro keys
  induction keys generalizing k s with
  | nil => exact ⟨rfl, m⟩
  | cons key keys ih =>
    have found : (k.touch now key).entries.contains key = (s.read now key).isSome := by
      rw [Std.TreeMap.contains_eq_isSome_getElem?, Keyspace.getElem?_touch_self, m key]
    have dropped : Matches now ((k.touch now key).delete key) (s.change key .drop) :=
      (m.touch key).change key .drop
    simp only [Keyspace.destroy, Ledger.destroy, found]
    cases read : s.read now key with
    | some e =>
      obtain ⟨count, shows⟩ := ih dropped
      exact ⟨by simp [count], shows⟩
    | none =>
      -- the ledger leaves an expired entry where it is, which shows the same
      have kept : Matches now ((k.touch now key).delete key) s := by
        intro other
        rw [dropped other, read_change]
        split
        · next same => simp [← same, read]
        · rfl
      obtain ⟨count, shows⟩ := ih kept
      exact ⟨by simp [count], shows⟩

/-- A request is answered the same, and keeps the view the same. -/
theorem eval (m : Matches now k s) (r : Request) :
    (k.eval now r).1 = (s.eval now r).1 ∧ Matches now (k.eval now r).2 (s.eval now r).2 := by
  cases asked : Action.ofRequest r with
  | error e =>
    rw [Keyspace.eval_of_error k now asked]
    simp only [Ledger.eval, asked]
    exact ⟨trivial, m.tick⟩
  | ok a =>
    rw [Keyspace.eval_of_ok k now asked]
    simp only [Ledger.eval, asked]
    cases named : a.key? with
    | some key =>
      have live : (k.tick now).live? now key = s.read now key := m.tick key
      rw [Keyspace.perform_eq _ now named, live]
      exact ⟨rfl, (m.tick.touch key).change key _⟩
    | none =>
      cases a with
      | destroy keys =>
        obtain ⟨count, shows⟩ := m.tick.destroy keys
        exact ⟨by simp [Keyspace.perform, Action.keys, count], shows⟩
      | _ => simp [Action.key?] at named

/-- An access shows the same on both sides, and keeps the view the same. -/
theorem access (m : Matches now k s) (x : Access) :
    (k.access now x).1 = (s.access now x).1 ∧
      Matches now (k.access now x).2 (s.access now x).2 := by
  cases x with
  | eval r =>
    obtain ⟨answer, shows⟩ := m.eval r
    exact ⟨congrArg Seen.answer answer, shows⟩
  | contains key =>
    refine ⟨?_, m.touch key⟩
    simp only [Keyspace.access, Keyspace.contains, Keyspace.getElem?_touch_self, m key,
      Ledger.access]
  | timeLeft key =>
    refine ⟨?_, m.touch key⟩
    simp only [Keyspace.access, Keyspace.timeLeft?, Keyspace.getElem?_touch_self, m key,
      Ledger.access]
  | clear =>
    refine ⟨rfl, fun key => ?_⟩
    simp [Keyspace.access, Keyspace.live?_clear, Ledger.access, read]

theorem replay (m : Matches now k s) (run : List (Nat × Access)) (after : ∀ x ∈ run, now ≤ x.1)
    (ordered : run.Pairwise fun x y => x.1 ≤ y.1) :
    (Turnstile.replay Keyspace.access run k).1 = (Turnstile.replay Ledger.access run s).1 := by
  induction run generalizing now k s with
  | nil => rfl
  | cons x rest ih =>
    obtain ⟨t, x⟩ := x
    obtain ⟨first, ordered⟩ := List.pairwise_cons.1 ordered
    obtain ⟨seen, shows⟩ := (m.later (after (t, x) (by simp))).access x
    simp only [Turnstile.replay, seen, ih shows first ordered]

end Matches

end Ledger

/-- Purging on access and sweeping cannot be observed : on every run of accesses at points
of time that do not go back, a keyspace that starts empty shows just what a ledger shows,
which takes nothing out on its own. -/
theorem replay_access_eq (run : List (Nat × Access))
    (ordered : run.Pairwise fun x y => x.1 ≤ y.1) :
    (replay Keyspace.access run {}).1 = (replay Ledger.access run fun _ => none).1 :=
  (Ledger.Matches.empty 0).replay run (fun _ _ => Nat.zero_le _) ordered

/-- A lock key that expires and comes back as a list. -/
def reusedKey : List (Nat × Access) :=
  [(0, .eval (Command.acquire.request ["x"] ["h:1.1:1", "1"])),
    (0, .timeLeft "x"),
    (Time.ofMillis 1, .contains "x"),
    (Time.ofMillis 1, .eval (Command.push.request ["x"] ["p"])),
    (Time.ofMillis 2, .eval (Command.owner.request ["x"] []))]

theorem replay_access_reusedKey :
    (reusedKey.Pairwise fun x y => x.1 ≤ y.1) ∧
      (replay Keyspace.access reusedKey {}).1 = (replay Ledger.access reusedKey fun _ => none).1 ∧
      (replay Ledger.access reusedKey fun _ => none).1 =
        [.answer (.ok (.int 1)), .span? (some (Time.ofMillis 1)), .flag false,
          .answer (.ok (.int 1)), .answer (.error (.wrongType "x"))] :=
  ⟨by decide, replay_access_eq reusedKey (by decide), by rfl⟩

end Turnstile
