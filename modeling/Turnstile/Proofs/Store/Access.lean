import Turnstile.Store.Eval

/-!
# Accesses to a store

A client has a store run a request, looks whether a key exists or how long it still lives,
or takes everything out. `replay` makes accesses one after the other, each at a point of
time of its own, and collects what the clients see. It is the same for every kind of store :
a store is a state with a step (`Keyspace.access` is that of the keyspace).
-/

namespace Turnstile

/-- What a client does with a store. -/
inductive Access where
  | eval (r : Request)
  | contains (key : String)
  | timeLeft (key : String)
  | clear
deriving DecidableEq, Repr

/-- What a client gets to see of an access. -/
inductive Seen where
  | answer (a : Answer)
  | flag (b : Bool)
  | span? (d : Option Nat)
  | nothing

/-- What clients see of accesses, each at its point of time, and the store after them. -/
def replay {σ : Type} (step : Nat → Access → σ → Seen × σ) :
    List (Nat × Access) → σ → List Seen × σ
  | [], s => ([], s)
  | (now, access) :: rest, s =>
    let (seen, s) := step now access s
    let (later, s) := replay step rest s
    (seen :: later, s)

section Replay

variable {σ : Type} (step : Nat → Access → σ → Seen × σ)

theorem replay_append (run later : List (Nat × Access)) (s : σ) :
    replay step (run ++ later) s =
      let past := replay step run s
      let next := replay step later past.2
      (past.1 ++ next.1, next.2) := by
  induction run generalizing s with
  | nil => rfl
  | cons x run ih => simp only [List.cons_append, replay, ih]

theorem replay_concat (run : List (Nat × Access)) (x : Nat × Access) (s : σ) :
    replay step (run ++ [x]) s =
      let past := replay step run s
      (past.1 ++ [(step x.1 x.2 past.2).1], (step x.1 x.2 past.2).2) := by
  rw [replay_append]
  rfl

theorem length_replay (run : List (Nat × Access)) (s : σ) :
    (replay step run s).1.length = run.length := by
  induction run generalizing s with
  | nil => rfl
  | cons y run ih => simp only [replay, List.length_cons, ih]

end Replay

/-- An access to the keyspace. -/
def Keyspace.access (now : Nat) (access : Access) (k : Keyspace) : Seen × Keyspace :=
  match access with
  | .eval r =>
    let (answer, k) := k.eval now r
    (.answer answer, k)
  | .contains key =>
    let (found, k) := k.contains now key
    (.flag found, k)
  | .timeLeft key =>
    let (left, k) := k.timeLeft? now key
    (.span? left, k)
  | .clear => (.nothing, k.clear)

end Turnstile
