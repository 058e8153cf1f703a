import Turnstile.Lock.Handle
import Turnstile.Proofs.Lock.Outcome

/-!
# A handle at work

A handle is not shared between threads, so it runs one operation after the other : a call, or
a wait, which makes attempts until one succeeds or its time is over. Between a question and
its answer, and between the attempts of a wait, others may run. `Client.act` is what a handle
does on its own, on top of the calls themselves (`Call.start`, `Stage.resume`), and
`Client.acted` lists all it can make of the handle.

What a handle holds fits the question it waits for (`Task.Fits`), and no act changes that.
-/

namespace Turnstile.Lock

/-! ## Operations -/

/-- What is done with a handle. -/
inductive Op where
  | call (call : Call)
  /-- Attempts until one succeeds or so much time is over. -/
  | wait (limit : Nat)
deriving DecidableEq, Repr

/-- The call that an operation makes, once or again and again. -/
def Op.attempt : Op → Call
  | call c => c
  | wait _ => .tryLock

/-- How far a handle is with what it does. An operation that asks has been under way `since`
some point of time. -/
inductive Task where
  | free
  | asking (op : Op) (since : Nat) (stage : Stage)
  | answered (op : Op) (since : Nat) (stage : Stage) (answer : Answer)
  /-- A wait sleeps until its next attempt. -/
  | asleep (limit since wake : Nat)

/-- The state of a handle. -/
structure Client where
  hold : Hold := .none
  task : Task := .free
  /-- The operations that have ended, with their results, the last one first. -/
  results : List (Op × Except Error Bool) := []
  /-- When the store last gave the handle's own token a lease. -/
  granted : Option Nat := none

/-- What a handle does on its own. -/
inductive Act where
  | begin (op : Op)
  /-- The store cannot be reached, so the question gets an error for an answer. -/
  | fail (reason : String)
  /-- The answer is taken in. -/
  | resume
  | wake
  /-- A wait is found to be cancelled. -/
  | interrupt
deriving DecidableEq, Repr

namespace Client

/-- Ends an operation. -/
def finish (c : Client) (op : Op) (result : Except Error Bool) : Client :=
  { c with task := .free, results := (op, result) :: c.results }

/-- Goes on after an attempt : a wait that was refused sleeps for the poll interval, or for
what is left of it. -/
def settle (h : Handle) (now : Nat) (op : Op) (since : Nat) (c : Client) :
    Except StoreError Bool → Client
  | .ok true => c.finish op (.ok true)
  | .error e => c.finish op (.error (.store e))
  | .ok false =>
    match op with
    | .call _ => c.finish op (.ok false)
    | .wait limit =>
      if limit ≤ now - since then c.finish op (.ok false)
      else { c with task := .asleep limit since (now + min h.poll (limit - (now - since))) }

/-- Makes a move of a call. -/
def move (h : Handle) (now : Nat) (op : Op) (since : Nat) (c : Client) (m : Move) : Client :=
  match m.next with
  | .ask stage => { c with hold := m.hold, task := .asking op since stage }
  | .finish result => { c with hold := m.hold }.settle h now op since result

/-- The state of a handle after an act, which does nothing where it is not possible. -/
def act (h : Handle) (now : Nat) (c : Client) : Act → Client
  | .begin op =>
    match c.task, op with
    | .free, .call call => c.move h now op now (call.start c.hold)
    | .free, .wait limit => { c with task := .asleep limit now now }
    | _, _ => c
  | .fail reason =>
    match c.task with
    | .asking op since stage =>
      { c with task := .answered op since stage (.error (.connection reason)) }
    | _ => c
  | .resume =>
    match c.task with
    | .answered op since stage answer => c.move h now op since (stage.resume c.hold answer)
    | _ => c
  | .wake =>
    match c.task with
    | .asleep limit since wake =>
      if wake ≤ now then c.move h now (.wait limit) since (Call.tryLock.start c.hold) else c
    | _ => c
  | .interrupt =>
    match c.task with
    | .asleep limit _ wake =>
      if wake ≤ now then c.finish (.wait limit) (.error (.interrupted h.key)) else c
    | _ => c

/-- The state of a handle after its question was answered at a point of time. -/
def answer (now : Nat) (op : Op) (since : Nat) (stage : Stage) (a : Answer) (c : Client) : Client :=
  { c with
    task := .answered op since stage a
    granted := if stage.grants a then some now else c.granted }

/-- What an act makes of a handle, with all that makes it possible. -/
inductive Acted (h : Handle) (now : Nat) (c : Client) : Act → Client → Prop
  | idle {a : Act} : Acted h now c a c
  | called {call : Call} (free : c.task = .free) :
    Acted h now c (.begin (.call call)) (c.move h now (.call call) now (call.start c.hold))
  | waited {limit : Nat} (free : c.task = .free) :
    Acted h now c (.begin (.wait limit)) { c with task := .asleep limit now now }
  | failed {op : Op} {since : Nat} {stage : Stage} {reason : String}
    (asking : c.task = .asking op since stage) :
    Acted h now c (.fail reason)
      { c with task := .answered op since stage (.error (.connection reason)) }
  | resumed {op : Op} {since : Nat} {stage : Stage} {answer : Answer}
    (answered : c.task = .answered op since stage answer) :
    Acted h now c .resume (c.move h now op since (stage.resume c.hold answer))
  | woken {limit since wake : Nat} (asleep : c.task = .asleep limit since wake)
    (due : wake ≤ now) :
    Acted h now c .wake (c.move h now (.wait limit) since (Call.tryLock.start c.hold))
  | interrupted {limit since wake : Nat} (asleep : c.task = .asleep limit since wake)
    (due : wake ≤ now) :
    Acted h now c .interrupt (c.finish (.wait limit) (.error (.interrupted h.key)))

theorem acted (h : Handle) (now : Nat) (c : Client) (a : Act) :
    Acted h now c a (c.act h now a) := by
  cases a with
  | begin op =>
    unfold act
    dsimp only
    split
    · next free => exact .called free
    · next free => exact .waited free
    · exact .idle
  | fail reason =>
    unfold act
    dsimp only
    split
    · next asking => exact .failed asking
    · exact .idle
  | resume =>
    unfold act
    dsimp only
    split
    · next answered => exact .resumed answered
    · exact .idle
  | wake =>
    unfold act
    dsimp only
    split
    · next asleep =>
      split
      · next due => exact .woken asleep due
      · exact .idle
    · exact .idle
  | interrupt =>
    unfold act
    dsimp only
    split
    · next asleep =>
      split
      · next due => exact .interrupted asleep due
      · exact .idle
    · exact .idle

section Move

variable (h : Handle) (now : Nat) (op : Op) (since : Nat) (c : Client)

/-- After an attempt the operation has ended, or is a wait that sleeps. -/
theorem settle_cases (result : Except StoreError Bool) :
    (∃ r, c.settle h now op since result = c.finish op r ∧ (r = .ok true → result = .ok true)) ∨
      ∃ limit wake,
        c.settle h now op since result = { c with task := .asleep limit since wake } := by
  unfold settle
  split
  · exact .inl ⟨_, rfl, fun _ => rfl⟩
  · exact .inl ⟨_, rfl, fun h => by cases h⟩
  · split
    · exact .inl ⟨_, rfl, fun h => by cases h⟩
    · split
      · exact .inl ⟨_, rfl, fun h => by cases h⟩
      · exact .inr ⟨_, _, rfl⟩

theorem hold_settle (result : Except StoreError Bool) :
    (c.settle h now op since result).hold = c.hold := by
  obtain ⟨r, settled, -⟩ | ⟨_, _, settled⟩ := settle_cases h now op since c result
  · rw [settled]
    rfl
  · rw [settled]

theorem granted_settle (result : Except StoreError Bool) :
    (c.settle h now op since result).granted = c.granted := by
  obtain ⟨r, settled, -⟩ | ⟨_, _, settled⟩ := settle_cases h now op since c result
  · rw [settled]
    rfl
  · rw [settled]

variable (m : Move)

@[simp] theorem hold_move : (c.move h now op since m).hold = m.hold := by
  unfold move
  split
  · rfl
  · exact hold_settle ..

@[simp] theorem granted_move : (c.move h now op since m).granted = c.granted := by
  unfold move
  split
  · rfl
  · exact granted_settle ..

/-- After a move the call asks its next question, or its operation has ended or sleeps. -/
theorem task_move :
    (∃ stage, m.next = .ask stage ∧ (c.move h now op since m).task = .asking op since stage) ∨
      (c.move h now op since m).task = .free ∨
      ∃ limit wake, (c.move h now op since m).task = .asleep limit since wake := by
  unfold move
  split
  · next stage asks => exact .inl ⟨stage, asks, rfl⟩
  · next result _ =>
    obtain ⟨r, settled, -⟩ | ⟨limit, wake, settled⟩ :=
      settle_cases h now op since { c with hold := m.hold } result
    · rw [settled]
      exact .inr (.inl rfl)
    · rw [settled]
      exact .inr (.inr ⟨limit, wake, rfl⟩)

variable {h} {now} {op} {since} {c} {m}

theorem task_move_ne_answered {op' : Op} {since' : Nat} {stage : Stage} {answer : Answer} :
    (c.move h now op since m).task ≠ .answered op' since' stage answer := by
  intro answered
  obtain ⟨_, _, task⟩ | task | ⟨_, _, task⟩ := task_move h now op since c m <;>
    cases answered.symm.trans task

end Move

/-- An act of its own leaves when the handle was given its lease. -/
theorem Acted.granted {h : Handle} {now : Nat} {c c' : Client} {a : Act}
    (acted : Acted h now c a c') : c'.granted = c.granted := by
  cases acted with
  | called => exact granted_move ..
  | resumed => exact granted_move ..
  | woken => exact granted_move ..
  | _ => rfl

end Client

/-! ## Questions fit the calls that ask them -/

/-- The call that asks a question. -/
def Stage.call : Stage → Call
  | renewing _ => .renew
  | extending => .tryLock
  | acquiring => .tryLock
  | reentering => .tryLock
  | releasing => .unlock

/-- What a handle holds while it waits for the answer to a question. -/
def Stage.Fits (hold : Hold) : Stage → Prop
  | renewing byOwner => hold.held = true ∧ hold.nested = byOwner
  | extending => hold.isFresh = true
  | acquiring => hold.isFresh = false
  | reentering => hold.isFresh = false
  | releasing => hold = .none

/-- What a handle holds fits its question, and the question its operation. -/
def Task.Fits (hold : Hold) : Task → Prop
  | asking op _ stage => stage.Fits hold ∧ stage.call = op.attempt
  | answered op _ stage _ => stage.Fits hold ∧ stage.call = op.attempt
  | _ => True

theorem Call.fits_start {call : Call} {hold : Hold} {stage : Stage}
    (asks : (call.start hold).next = .ask stage) :
    stage.Fits (call.start hold).hold ∧ stage.call = call := by
  revert asks
  fun_cases Call.start <;> rintro ⟨⟩ <;> simp_all [Stage.Fits, Stage.call]

theorem Stage.fits_resume {stage next : Stage} {hold : Hold} {answer : Answer}
    (fits : stage.Fits hold) (asks : (stage.resume hold answer).next = .ask next) :
    next.Fits (stage.resume hold answer).hold ∧ next.call = stage.call := by
  revert asks
  fun_cases Stage.resume <;> rintro ⟨⟩ <;> simp_all [Stage.Fits, Stage.call, Hold.isFresh]

namespace Client

/-- An act keeps what a handle holds fit for its question. -/
theorem Acted.fits {h : Handle} {now : Nat} {c c' : Client} {a : Act} (acted : Acted h now c a c')
    (fits : c.task.Fits c.hold) : c'.task.Fits c'.hold := by
  have moved (op : Op) (since : Nat) (m : Move)
      (next : ∀ stage, m.next = .ask stage → stage.Fits m.hold ∧ stage.call = op.attempt) :
      (c.move h now op since m).task.Fits (c.move h now op since m).hold := by
    rw [hold_move]
    obtain ⟨stage, asks, task⟩ | task | ⟨_, _, task⟩ := task_move h now op since c m
    · rw [task]
      exact next stage asks
    · rw [task]
      trivial
    · rw [task]
      trivial
  cases acted with
  | idle => exact fits
  | called => exact moved _ _ _ fun stage asks => Call.fits_start asks
  | woken => exact moved _ _ _ fun stage asks => Call.fits_start asks
  | resumed answered =>
    rw [answered] at fits
    refine moved _ _ _ fun stage asks => ?_
    obtain ⟨next, same⟩ := Stage.fits_resume fits.1 asks
    exact ⟨next, same.trans fits.2⟩
  | failed asking =>
    rw [asking] at fits
    exact fits
  | waited => trivial
  | interrupted => trivial

end Client

end Turnstile.Lock
