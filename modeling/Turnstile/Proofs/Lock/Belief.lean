import Turnstile.Proofs.Lock.Among

/-!
# What a handle believes after an attempt

An attempt to take a lock answers with yes or no, and the handle keeps a flag of its own about
what it holds. `attempt_held` : the two agree, for single attempts and for waits of all kinds,
unless a handle that held its lock reentrant is refused. Such a handle goes on to believe that
it holds the lock. A fresh hold is renewed first and given up if that fails, but nothing asks
for the outer hold that a reentrant one relies on.

This does not depend on what the store answers, only on the flags being the handle's own
(`Surroundings.KeepsHold`).
-/

namespace Turnstile.Lock

/-! ## What a refusal leaves of a hold -/

/-- What is left of a hold after a refused attempt. -/
def Hold.afterRefusal (hold : Hold) : Hold := if hold.isFresh then .none else hold

namespace Hold

variable (hold : Hold)

theorem held_afterRefusal : hold.afterRefusal.held = hold.isReentrant := by
  rcases hold with ⟨_ | _, _ | _⟩ <;> rfl

theorem afterRefusal_afterRefusal : hold.afterRefusal.afterRefusal = hold.afterRefusal := by
  rcases hold with ⟨_ | _, _ | _⟩ <;> rfl

variable {hold}

theorem eq_fresh (fresh : hold.isFresh = true) : hold = .fresh := by
  rcases hold with ⟨_ | _, _ | _⟩
  · cases fresh
  · cases fresh
  · rfl
  · cases fresh

theorem afterRefusal_of_isFresh (fresh : hold.isFresh = true) :
    { hold with held := false } = hold.afterRefusal := by
  obtain rfl := eq_fresh fresh
  rfl

theorem afterRefusal_of_not_isFresh (stale : hold.isFresh = false) : hold.afterRefusal = hold :=
  if_neg (Bool.eq_false_iff.1 stale)

end Hold

/-! ## One attempt -/

/-- A move of an attempt that began with a hold : it extends a fresh hold first, and once this
is refused, or if there is none, it keeps what a refusal leaves until the lock is taken. -/
def Move.OfAttempt (before : Hold) (m : Move) : Prop :=
  match m.next with
  | .ask .extending => m.hold = before ∧ before.isFresh = true
  | .ask .acquiring => m.hold = before.afterRefusal
  | .ask .reentering => m.hold = before.afterRefusal
  | .ask _ => False
  | .finish (.ok b) => if b then m.hold.held = true else m.hold = before.afterRefusal
  | .finish (.error _) => True

theorem Call.ofAttempt_start (before : Hold) : (tryLock.start before).OfAttempt before := by
  unfold start
  by_cases fresh : before.isFresh = true
  · rw [if_pos fresh]
    exact ⟨rfl, fresh⟩
  · rw [if_neg fresh]
    exact (Hold.afterRefusal_of_not_isFresh (Bool.eq_false_iff.2 fresh)).symm

/-- An answer leads from a move of an attempt to another one. -/
theorem Move.OfAttempt.resume {before : Hold} {m : Move} {stage : Stage}
    (attempt : m.OfAttempt before) (asks : m.next = .ask stage) (answer : Answer) :
    (stage.resume m.hold answer).OfAttempt before := by
  unfold OfAttempt at attempt
  rw [asks] at attempt
  rcases answer with e | reply
  · cases stage with
    | releasing => cases attempt
    | _ => trivial
  by_cases yes : reply.isYes = true
  · cases stage with
    | extending =>
      obtain ⟨same, fresh⟩ := attempt
      have held : before.held = true := (Bool.and_eq_true_iff.1 fresh).1
      simp [Stage.resume, yes, OfAttempt, same, held]
    | acquiring => simp [Stage.resume, yes, OfAttempt, Hold.fresh]
    | reentering => simp [Stage.resume, yes, OfAttempt, Hold.reentrant]
    | _ => cases attempt
  · cases stage with
    | extending =>
      obtain ⟨same, fresh⟩ := attempt
      simp [Stage.resume, yes, OfAttempt, same, Hold.afterRefusal_of_isFresh fresh]
    | acquiring => simpa [Stage.resume, yes, OfAttempt] using attempt
    | reentering => simpa [Stage.resume, yes, OfAttempt] using attempt
    | _ => cases attempt

/-! ## Attempts and waits in surroundings -/

variable {σ : Type}

/-- Only the handle itself sets its flags. -/
structure Surroundings.KeepsHold (env : Surroundings σ) : Prop where
  commit : ∀ hold events s, env.hold (env.commit hold events s) = hold
  ask : ∀ r s, env.hold (env.ask r s).2.2 = env.hold s
  sleep : ∀ span s, env.hold (env.sleep span s).2 = env.hold s

/-- A result agrees with what the handle believes, unless it is the refusal of a reentrant
hold. -/
def Hold.Agrees (before after : Hold) (b : Bool) : Prop :=
  after.held = b ↔ ¬(b = false ∧ before.isReentrant = true)

theorem Hold.agrees_true {before after : Hold} (held : after.held = true) :
    before.Agrees after true := by
  simp [Agrees, held]

theorem Hold.agrees_false {before after : Hold} (left : after = before.afterRefusal) :
    before.Agrees after false := by
  simp [Agrees, left, held_afterRefusal]

namespace Handle

variable {env : Surroundings σ} {h : Handle} {s s' : σ}

/-- What an attempt with a result leaves of the hold it began with. -/
theorem hold_of_attempt (keeps : env.KeepsHold) {b : Bool} {took : Nat}
    (ran : h.run env .tryLock s = (.ok b, took, s')) :
    if b then (env.hold s').held = true else env.hold s' = (env.hold s).afterRefusal := by
  let before := env.hold s
  have told : ∀ b', (.ok b : Except StoreError Bool) = .ok b' →
      if b' then (env.hold s').held = true else env.hold s' = before.afterRefusal := by
    refine follow_induction (P := fun m _ => m.OfAttempt before)
      (Q := fun result s' => ∀ b', result = .ok b' →
        if b' then (env.hold s').held = true else env.hold s' = before.afterRefusal)
      ?_ ?_ (Call.ofAttempt_start before) ran
    · intro m stage s₁ answer took s₂ attempt asks asked
      have hold := keeps.ask (stage.request h) (env.commit m.hold m.events s₁)
      rw [asked, keeps.commit] at hold
      rw [hold]
      exact attempt.resume asks answer
    · rintro m _ s₁ attempt finishes b' rfl
      rw [keeps.commit]
      simpa only [Move.OfAttempt, finishes] using attempt
  exact told b rfl

theorem agrees_of_attempt (keeps : env.KeepsHold) {b : Bool} {took : Nat}
    (ran : h.run env .tryLock s = (.ok b, took, s')) : (env.hold s).Agrees (env.hold s') b := by
  have left := hold_of_attempt keeps ran
  cases b with
  | true => exact Hold.agrees_true left
  | false => exact Hold.agrees_false left

/-- Refused attempts leave the same hold as one of them, so waits agree as attempts do. -/
theorem agrees_of_waitFrom (keeps : env.KeepsHold) {isCancelled : σ → Bool}
    {limit elapsed : Nat} {b : Bool}
    (waited : h.waitFrom env isCancelled limit elapsed s = (.ok b, s')) :
    (env.hold s).Agrees (env.hold s') b := by
  let before := env.hold s
  have told : ∀ b', (.ok b : Except Error Bool) = .ok b' → before.Agrees (env.hold s') b' := by
    refine waitFrom_induction (P := fun s₁ => (env.hold s₁).afterRefusal = before.afterRefusal)
      (Q := fun result s' => ∀ b', result = .ok b' → before.Agrees (env.hold s') b')
      ?_ ?_ ?_ rfl waited
    · rintro s₁ - b' ⟨⟩
    · intro s₁ result took s₂ same ran b' ok
      rcases result with e | b''
      · cases ok
      · obtain rfl := Except.ok.inj ok
        have left := hold_of_attempt keeps ran
        cases b'' with
        | true => exact Hold.agrees_true left
        | false => exact Hold.agrees_false (left.trans same)
    · intro s₁ took s₂ pause late s₃ same ran slept
      have left : env.hold s₂ = (env.hold s₁).afterRefusal := hold_of_attempt keeps ran
      have hold := keeps.sleep pause s₂
      rw [slept] at hold
      rw [hold, left, same, Hold.afterRefusal_afterRefusal]
  exact told b rfl

end Handle

namespace Crew

variable {ι : Type} [DecidableEq ι] (crew : Crew ι)

/-- What others do leaves the flags of a handle alone. -/
theorem keepsHold_among (i : ι) : (crew.among i).KeepsHold where
  commit hold events p := by
    simp only [among, System.client_setClient]
  ask r p := by
    simp only [among, client_others]
  sleep span p := by
    simp only [among, client_others]
    exact congrArg Client.hold (crew.client_others p.system i (p.turns.headD {}).before)

end Crew

/-- What an attempt answers, and what the handle believes right after it. Let a handle of a crew
attempt its lock once, or wait for it in any way, in any state of the system, with others acting
before and after each of its questions and while it sleeps. If the answer is yes or no, the
handle believes to hold its lock as the answer says, unless it was refused and believed before
to hold the lock reentrant : then it still does. The same holds of a wait that ends in a time-out
as of one that is refused. -/
theorem attempt_held {ι : Type} [DecidableEq ι] (crew : Crew ι) (i : ι) (p : Course ι) :
    let h := crew.handle i
    let env := crew.among i
    (∀ b took p', h.run env .tryLock p = (.ok b, took, p') →
      (env.hold p).Agrees (env.hold p') b) ∧
      (∀ limit b p', h.tryLockFor env limit p = (.ok b, p') →
        (env.hold p).Agrees (env.hold p') b) ∧
      (∀ isCancelled limit b p',
        h.tryLockInterruptibly env isCancelled limit p = (.ok b, p') →
        (env.hold p).Agrees (env.hold p') b) ∧
      ∀ key waited p', h.lock env p = (.error (.timeout key waited), p') →
        (env.hold p).Agrees (env.hold p') false := by
  intro h env
  have keeps := crew.keepsHold_among i
  refine ⟨?attempt, ?wait, ?interruptible, ?lock⟩
  case attempt => exact fun b took p' ran => Handle.agrees_of_attempt keeps ran
  case wait => exact fun limit b p' waited => Handle.agrees_of_waitFrom keeps waited
  case interruptible =>
    exact fun isCancelled limit b p' waited => Handle.agrees_of_waitFrom keeps waited
  case lock =>
    intro key waited p' locked
    exact Handle.agrees_of_waitFrom keeps (Handle.refused_of_timeout locked)

/-- A handle takes the lock, another one of its thread enters it, the first gives it up and one of
another thread takes it. -/
def staleReentry : List (Step Member) :=
  Step.call .long .tryLock 1 ++ Step.call .short .tryLock 2 ++ Step.call .long .unlock 1 ++
    Step.call .foreign .tryLock 1

theorem refused_staleReentry :
    let s := Crew.nested.run (staleReentry ++ Step.call .short .tryLock 2)
    (s.client .short).results.head? = some (.call .tryLock, .ok false) ∧
      (s.client .short).hold.held = true :=
  ⟨by rfl, by decide⟩

/-- The system in which a handle relies on the hold of another that is gone. -/
def staleCourse : Course Member := ⟨Crew.nested.run staleReentry, []⟩

theorem attempt_held_staleReentry :
    ∃ took p', (Crew.nested.handle .short).run (Crew.nested.among .short) .tryLock staleCourse =
        (.ok false, took, p') ∧
      Hold.reentrant.Agrees ((Crew.nested.among .short).hold p') false := by
  have refused :
      ((Crew.nested.handle .short).run (Crew.nested.among .short) .tryLock staleCourse).1 =
        .ok false := by
    rw [Handle.run, Handle.follow_of_ask _ _ _ _ rfl, Handle.follow_of_ask _ _ _ _ rfl,
      Handle.follow_of_finish _ _ _ _ rfl]
  have ran : (Crew.nested.handle .short).run (Crew.nested.among .short) .tryLock staleCourse =
      (.ok false, _, _) := Prod.ext refused rfl
  exact ⟨_, _, ran, (attempt_held Crew.nested .short staleCourse).1 _ _ _ ran⟩

end Turnstile.Lock
