import Mathlib.Data.List.Chain
import Turnstile.Proofs.Lock.Client
import Turnstile.Proofs.Lock.Diary

/-!
# The log tells what a handle holds

A handle changes its flags in one place and logs an event in another, and an unlock drops a fresh
hold before it knows what event will tell of it. `Commits` lists all that a call can commit at one
go, with a note of an end that is still to be told. `Accounts` are what the diary of a handle shows
of its log : the last event tells whether the lock is held, the last entry tells how, and every
change of the one flag is told by one event. Every commit keeps this true (`Accounts.commit`), so
every call does (`accounts_run`), whatever its questions are answered.

`log_tells_hold` : so it is after any calls and waits, and only what goes wrong is a warning.
-/

namespace Turnstile

/-! ## What records tell -/

/-- Whether a record tells that the lock is held. -/
def LogRecord.tellsHeld (r : LogRecord) : Bool :=
  r.message ∈ ["lock acquired", "lock re-entered", "lock lease renewed"]

/-- Whether a record tells that the lock has been entered. -/
def LogRecord.tellsEntry (r : LogRecord) : Bool :=
  r.message ∈ ["lock acquired", "lock re-entered"]

namespace Lock

namespace Event

/-- Whether the lock is held after an event. -/
def tellsHeld : Event → Bool
  | renewed | acquired | reentered => true
  | _ => false

/-- Whether the lock has been entered with an event. -/
def tellsEntry : Event → Bool
  | acquired | reentered => true
  | _ => false

variable (h : Handle) (e : Event)

@[simp] theorem tellsEntry_record : (e.record h).tellsEntry = e.tellsEntry := by
  cases e <;> simp [record, LogRecord.tellsEntry, tellsEntry]

end Event

/-! ## Changes of a flag -/

/-- The values of a flag that differ from those before them. -/
def turns : Bool → List Bool → List Bool
  | _, [] => []
  | b, x :: xs => if x = b then turns b xs else x :: turns x xs

theorem turns_concat (b : Bool) (xs : List Bool) (x : Bool) :
    turns b (xs ++ [x]) = turns b xs ++ if x = xs.getLastD b then [] else [x] := by
  induction xs generalizing b with
  | nil => rfl
  | cons y xs ih =>
    rw [List.cons_append, turns, turns, List.getLastD_cons]
    split
    · next same =>
      rw [same]
      exact ih b
    · rw [ih y]
      rfl

/-! ## Diaries -/

/-- The events in a diary, in their order. -/
def events (deeds : List Deed) : List Event :=
  deeds.flatMap fun
    | .committed _ es => es
    | _ => []

/-- Whether the lock is held after each commit in a diary. -/
def heldAlong (deeds : List Deed) : List Bool :=
  deeds.filterMap fun
    | .committed hold _ => some hold.held
    | _ => none

/-- The records in a diary. -/
def records (h : Handle) (deeds : List Deed) : List LogRecord :=
  (events deeds).map (Event.record h)

theorem events_concat (deeds : List Deed) (hold : Hold) (es : List Event) :
    events (deeds ++ [.committed hold es]) = events deeds ++ es := by
  simp [events]

theorem events_asked (deeds : List Deed) (r : Request) (answer : Answer) (took : Nat) :
    events (deeds ++ [.asked r answer took]) = events deeds := by
  simp [events]

theorem events_slept (deeds : List Deed) (span late : Nat) :
    events (deeds ++ [.slept span late]) = events deeds := by
  simp [events]

theorem events_silent (deeds : List Deed) (hold : Hold) :
    events (deeds ++ [.committed hold []]) = events deeds := by
  rw [events_concat, List.append_nil]

theorem heldAlong_concat (deeds : List Deed) (hold : Hold) (es : List Event) :
    heldAlong (deeds ++ [.committed hold es]) = heldAlong deeds ++ [hold.held] := by
  simp [heldAlong]

/-- What a handle holds, and whether it has yet to tell that it no longer does. -/
structure Standing where
  hold : Hold
  owes : Bool := false

/-- What a call can commit at one go, and how the handle stands then. -/
inductive Commits : Standing → List Event → Standing → Prop
  | quiet (x : Standing) : Commits x [] x
  | renewed {hold : Hold} (held : hold.held = true) : Commits ⟨hold, false⟩ [.renewed] ⟨hold, false⟩
  | acquired (hold : Hold) : Commits ⟨hold, false⟩ [.acquired] ⟨.fresh, false⟩
  | reentered (hold : Hold) : Commits ⟨hold, false⟩ [.reentered] ⟨.reentrant, false⟩
  | ended {hold hold' : Hold} {e : Event} (held : hold.held = true) (gone : hold'.held = false)
    (tells : e.tellsHeld = false) (other : e.tellsEntry = false) :
    Commits ⟨hold, false⟩ [e] ⟨hold', false⟩
  /-- A hold is dropped, and the event will tell what became of it. -/
  | dropped {hold : Hold} (held : hold.held = true) : Commits ⟨hold, false⟩ [] ⟨.none, true⟩
  | told {e : Event} (tells : e.tellsHeld = false) (other : e.tellsEntry = false) :
    Commits ⟨.none, true⟩ [e] ⟨.none, false⟩

/-- Whether a call is about to be told what became of the hold that it has dropped. -/
def Next.owes : Next → Bool
  | ask .releasing => true
  | _ => false

/-- What the diary of a handle shows of its log, where `hold₀` is what the handle held before. -/
structure Accounts (hold₀ : Hold) (deeds : List Deed) (x : Standing) : Prop where
  /-- The last event tells whether the lock is held, or has been until now. -/
  held : ((events deeds).map Event.tellsHeld).getLastD hold₀.held = (x.hold.held || x.owes)
  owes : x.owes = true → x.hold = .none
  /-- The last entry tells how the lock is held. -/
  nested : x.hold.held = true → x.hold.nested =
    (((events deeds).filter Event.tellsEntry).map (· == .reentered)).getLastD hold₀.nested
  latest : (heldAlong deeds).getLastD hold₀.held = x.hold.held
  /-- Every change has been told, but for the one that is still to be. -/
  changes : turns hold₀.held (heldAlong deeds) =
    turns hold₀.held ((events deeds).map Event.tellsHeld) ++ if x.owes then [false] else []
  /-- An end is told of what was held. -/
  ends : (hold₀.held :: (events deeds).map Event.tellsHeld).IsChain
    fun before after => before || after

namespace Accounts

variable {hold₀ : Hold} {deeds : List Deed} {x x' : Standing} {es : List Event}

theorem start (hold : Hold) : Accounts hold [] ⟨hold, false⟩ where
  held := (Bool.or_false _).symm
  owes := nofun
  nested _ := rfl
  latest := rfl
  changes := rfl
  ends := .singleton _

/-- A commit without an event and without a change is accounted for. -/
theorem quiet (accounts : Accounts hold₀ deeds x) :
    Accounts hold₀ (deeds ++ [.committed x.hold []]) x where
  held := by rw [events_silent, accounts.held]
  owes := accounts.owes
  nested := by
    rw [events_silent]
    exact accounts.nested
  latest := by rw [heldAlong_concat, List.getLastD_concat]
  changes := by
    rw [events_silent, heldAlong_concat, turns_concat, accounts.latest, if_pos rfl,
      List.append_nil, accounts.changes]
  ends := by
    rw [events_silent]
    exact accounts.ends

/-- A hold that is dropped is still to be accounted for. -/
theorem dropped {hold : Hold} (accounts : Accounts hold₀ deeds ⟨hold, false⟩)
    (before : hold.held = true) :
    Accounts hold₀ (deeds ++ [.committed .none []]) ⟨.none, true⟩ where
  held := by
    rw [events_silent, accounts.held]
    exact (Bool.or_false _).trans before
  owes _ := rfl
  nested := nofun
  latest := by rw [heldAlong_concat, List.getLastD_concat]
  changes := by
    have fell : ¬Hold.none.held = hold.held := by
      rw [before]
      exact Bool.false_ne_true
    rw [events_silent, heldAlong_concat, turns_concat, accounts.latest, if_neg fell,
      accounts.changes]
    exact congrArg (· ++ _) (List.append_nil _)
  ends := by
    rw [events_silent]
    exact accounts.ends

/-- An event that tells of the hold is accounted for. -/
theorem tell {e : Event} {hold : Hold} (accounts : Accounts hold₀ deeds x)
    (tells : e.tellsHeld = hold.held) (known : (x.hold.held || x.owes) = true ∨ hold.held = true)
    (settles : x.owes = true → hold.held = false)
    (entry : e.tellsEntry = true → hold.nested = (e == .reentered))
    (kept : e.tellsEntry = false → hold.held = true → hold = x.hold) :
    Accounts hold₀ (deeds ++ [.committed hold [e]]) ⟨hold, false⟩ := by
  have told : (events (deeds ++ [.committed hold [e]])).map Event.tellsHeld =
      (events deeds).map Event.tellsHeld ++ [hold.held] := by
    rw [events_concat, List.map_append, List.map_singleton, tells]
  constructor
  case held => rw [told, List.getLastD_concat, Bool.or_false]
  case owes => exact nofun
  case nested =>
    intro holds
    rw [events_concat]
    cases enters : e.tellsEntry with
    | true => simp [enters, entry enters]
    | false =>
      obtain rfl := kept enters holds
      simpa [enters] using accounts.nested holds
  case latest => rw [heldAlong_concat, List.getLastD_concat]
  case changes =>
    rw [told, heldAlong_concat, turns_concat, turns_concat, accounts.held, accounts.latest,
      accounts.changes]
    cases owing : x.owes with
    | true => simp [accounts.owes owing, settles owing, Hold.none]
    | false => simp
  case ends =>
    rw [told, ← List.cons_append, List.isChain_append]
    refine ⟨accounts.ends, .singleton _, fun before last after only => ?_⟩
    rw [List.getLast?_cons, ← List.getLastD_eq_getLast?, accounts.held] at last
    obtain rfl := Option.some.inj last
    obtain rfl := Option.some.inj only
    exact Bool.or_eq_true_iff.2 known

/-- Only events, and what is held after commits, are accounted for. -/
theorem congr (accounts : Accounts hold₀ deeds x) {deeds' : List Deed}
    (same : events deeds' = events deeds) (same' : heldAlong deeds' = heldAlong deeds) :
    Accounts hold₀ deeds' x where
  held := same ▸ accounts.held
  owes := accounts.owes
  nested := same ▸ accounts.nested
  latest := same' ▸ accounts.latest
  changes := by rw [same, same', accounts.changes]
  ends := same ▸ accounts.ends

theorem asked (accounts : Accounts hold₀ deeds x) (r : Request) (answer : Answer) (took : Nat) :
    Accounts hold₀ (deeds ++ [.asked r answer took]) x :=
  accounts.congr (events_asked ..) (by simp [heldAlong])

theorem slept (accounts : Accounts hold₀ deeds x) (span late : Nat) :
    Accounts hold₀ (deeds ++ [.slept span late]) x :=
  accounts.congr (events_slept ..) (by simp [heldAlong])

/-- Every commit is accounted for. -/
theorem commit (accounts : Accounts hold₀ deeds x) (commits : Commits x es x') :
    Accounts hold₀ (deeds ++ [.committed x'.hold es]) x' := by
  cases commits with
  | quiet => exact accounts.quiet
  | renewed held => exact accounts.tell held.symm (.inr held) nofun nofun fun _ _ => rfl
  | acquired => exact accounts.tell rfl (.inr rfl) nofun (fun _ => rfl) nofun
  | reentered => exact accounts.tell rfl (.inr rfl) nofun (fun _ => rfl) nofun
  | ended held gone tells other =>
    refine accounts.tell (tells.trans gone.symm) (.inl (Bool.or_eq_true_iff.2 (.inl held))) nofun
      (fun enters => ?_) fun _ held' => ?_
    · cases enters.symm.trans other
    · cases held'.symm.trans gone
  | dropped held => exact accounts.dropped held
  | told tells other =>
    refine accounts.tell tells (.inl rfl) (fun _ => rfl) (fun enters => ?_) nofun
    cases enters.symm.trans other

end Accounts

/-! ## A handle in use -/

/-- What answers the questions of a handle and lets time go by, in whatever way. -/
structure Executor (σ : Type) where
  ask : Request → σ → Answer × Nat × σ
  sleep : Nat → σ → Nat × σ

/-- An executor, what the handle holds, and the diary of the handle. -/
abbrev Desk (σ : Type) := (σ × Hold) × List Deed

variable {σ : Type}

namespace Desk

def hold (s : Desk σ) : Hold := s.1.2

def deeds (s : Desk σ) : List Deed := s.2

end Desk

/-- The surroundings of a handle that keeps a diary. -/
def Executor.desk (env : Executor σ) : Surroundings (Desk σ) :=
  Surroundings.recorded
    { ask := fun r s =>
        let (answer, took, state) := env.ask r s.1
        (answer, took, state, s.2)
      sleep := fun span s =>
        let (late, state) := env.sleep span s.1
        (late, state, s.2)
      hold := Prod.snd
      commit := fun hold _ s => (s.1, hold) }

/-- An answer is written down, and leaves the flags of the handle. -/
theorem Executor.ask_desk {env : Executor σ} {r : Request} {s s' : Desk σ} {answer : Answer}
    {took : Nat} (asked : env.desk.ask r s = (answer, took, s')) :
    s'.deeds = s.deeds ++ [.asked r answer took] ∧ s'.hold = s.hold := by
  obtain ⟨rfl, rfl, rfl⟩ := asked
  exact ⟨rfl, rfl⟩

theorem Handle.snd_lock (env : Surroundings σ) (h : Handle) (s : σ) :
    (h.lock env s).2 = (h.tryLockFor env h.wait s).2 := by
  unfold lock
  rcases h.tryLockFor env h.wait s with ⟨e | _ | _, s'⟩ <;> rfl

theorem Handle.snd_unlock (env : Surroundings σ) (h : Handle) (s : σ) :
    (h.unlock env s).2 = (h.run env .unlock s).2.2 := by
  unfold unlock
  rcases h.run env .unlock s with ⟨e | b, took, s'⟩ <;> rfl

/-- What a handle is used for. -/
inductive Use (σ : Type) where
  | renew
  | tryLock
  | tryLockFor (limit : Nat)
  | tryLockInterruptibly (limit : Nat) (isCancelled : σ → Bool)
  | lock
  | unlock

namespace Use

/-- The call that is made, once or again and again. -/
def call : Use σ → Call
  | renew => .renew
  | unlock => .unlock
  | _ => .tryLock

/-- Uses a handle. -/
def on (env : Executor σ) (h : Handle) (s : Desk σ) : Use σ → Desk σ
  | renew => (h.run env.desk .renew s).2.2
  | tryLock => (h.run env.desk .tryLock s).2.2
  | tryLockFor limit => (h.tryLockFor env.desk limit s).2
  | tryLockInterruptibly limit isCancelled =>
    (h.tryLockInterruptibly env.desk (fun s => isCancelled s.1.1) limit s).2
  | lock => (h.lock env.desk s).2
  | unlock => (h.unlock env.desk s).2

variable {env : Executor σ} {h : Handle}

/-- What every run of a call keeps, and every sleep, is kept when a handle is used. -/
theorem keeps {P : Desk σ → Prop} {u : Use σ}
    (run : ∀ s, P s → P (h.run env.desk u.call s).2.2)
    (slept : ∀ span s, P s → P (env.desk.sleep span s).2) {s : Desk σ} (start : P s) :
    P (u.on env h s) := by
  have wait (attempt : u.call = .tryLock) (isCancelled : Desk σ → Bool) (limit : Nat) :
      P (h.waitFrom env.desk isCancelled limit 0 s).2 := by
    rw [attempt] at run
    refine Handle.waitFrom_induction (P := P) (Q := fun _ s => P s) (fun _ => id)
      (fun s _ _ _ start ran => ?_) (fun s _ _ span _ _ start ran sleeps => ?_) start rfl
    · have done := run s start
      rwa [ran] at done
    · have done := slept span _ (run s start)
      rwa [ran, sleeps] at done
  cases u with
  | renew | tryLock => exact run s start
  | tryLockFor limit => exact wait rfl _ limit
  | tryLockInterruptibly limit isCancelled => exact wait rfl _ limit
  | lock =>
    rw [on, Handle.snd_lock]
    exact wait rfl _ h.wait
  | unlock =>
    rw [on, Handle.snd_unlock]
    exact run s start

end Use

/-! ## Calls are accounted for -/

/-- A diary goes on from what has been written, with events of some sort, and accounts for the
log, where `owes` says whether an end is still to be told. -/
def GoesOn (sort : Event → Prop) (past : List Deed) (hold₀ : Hold) (owes : Bool) (s : Desk σ) :
    Prop :=
  ∃ deeds, s.deeds = past ++ deeds ∧ Accounts hold₀ deeds ⟨s.hold, owes⟩ ∧
    ∀ e ∈ events deeds, sort e

section Runs

variable {env : Executor σ} {h : Handle} {sort : Event → Prop} {past : List Deed} {hold₀ : Hold}
  {owes owes' : Bool} {s s' : Desk σ}

namespace GoesOn

theorem commit (goesOn : GoesOn sort past hold₀ owes s) {hold : Hold} {es : List Event}
    (commits : Commits ⟨s.hold, owes⟩ es ⟨hold, owes'⟩) (sorts : ∀ e ∈ es, sort e) :
    GoesOn sort past hold₀ owes' (env.desk.commit hold es s) := by
  obtain ⟨deeds, written, accounts, sorts'⟩ := goesOn
  refine ⟨deeds ++ [.committed hold es], ?_, accounts.commit commits, fun e mem => ?_⟩
  · rw [← List.append_assoc, ← written]
    rfl
  · rw [events_concat] at mem
    exact (List.mem_append.1 mem).elim (sorts' e) (sorts e)

theorem ask (goesOn : GoesOn sort past hold₀ owes s) {r : Request} {answer : Answer} {took : Nat}
    (asked : env.desk.ask r s = (answer, took, s')) : GoesOn sort past hold₀ owes s' := by
  obtain ⟨deeds, written, accounts, sorts⟩ := goesOn
  obtain ⟨written', kept⟩ := Executor.ask_desk asked
  refine ⟨deeds ++ [.asked r answer took], ?_, ?_, ?_⟩
  · rw [written', written, List.append_assoc]
  · rw [kept]
    exact accounts.asked r answer took
  · rwa [events_asked]

theorem sleep (goesOn : GoesOn sort past hold₀ owes s) (span : Nat) :
    GoesOn sort past hold₀ owes (env.desk.sleep span s).2 := by
  obtain ⟨deeds, written, accounts, sorts⟩ := goesOn
  refine ⟨deeds ++ [.slept span (env.sleep span s.1.1).1], ?_, accounts.slept .., ?_⟩
  · rw [← List.append_assoc, ← written]
    rfl
  · rwa [events_slept]

end GoesOn

end Runs

/-! ## Unlocking -/

end Lock

end Turnstile
