import Turnstile.Exchange
import Turnstile.Lock.Call

/-!
# Running calls, and waiting for a lock

A call runs in surroundings that answer its questions, take their time over it and let it
sleep. `Handle.run` carries one call through to its end. `Handle.waitFrom` is the loop of
all waits: it attempts the lock, sleeps for the poll interval or for what is left of the
wait, and goes on until an attempt does not end in a refusal, the wait is over or it is
cancelled. The loop ends because each sleep uses up part of the wait.
-/

namespace Turnstile.Lock

/-- What a call runs in, of which `σ` is the state. -/
structure Surroundings (σ : Type) where
  /-- Asks the store: its answer, and how long that took. -/
  ask : Request → σ → Answer × Nat × σ
  /-- Sleeps, and tells by how much it took longer than it should. -/
  sleep : Nat → σ → Nat × σ
  /-- The flags of the handle. -/
  hold : σ → Hold
  /-- Sets the flags of the handle and logs its events. -/
  commit : Hold → List Event → σ → σ

variable {σ : Type}

namespace Handle

/-- Carries a call through from a move on: its result, and how long it took, where `elapsed`
of it is over. -/
def follow (env : Surroundings σ) (h : Handle) (m : Move) (elapsed : Nat) (s : σ) :
    Except StoreError Bool × Nat × σ :=
  let s := env.commit m.hold m.events s
  match _ : m.next with
  | .finish result => (result, elapsed, s)
  | .ask stage =>
    let (answer, took, s) := env.ask (stage.request h) s
    h.follow env (stage.resume (env.hold s) answer) (elapsed + took) s
termination_by m.next.questions
decreasing_by
  rw [‹m.next = _›]
  exact Nat.lt_succ_of_le (Stage.questions_resume ..)

section Follow

variable (env : Surroundings σ) (h : Handle) {m : Move} (elapsed : Nat) (s : σ)

theorem follow_of_finish {result : Except StoreError Bool} (finishes : m.next = .finish result) :
    h.follow env m elapsed s = (result, elapsed, env.commit m.hold m.events s) := by
  rw [follow]
  split
  · next finishes' =>
    obtain rfl := Next.finish.inj (finishes.symm.trans finishes')
    rfl
  · next asks => cases finishes.symm.trans asks

theorem follow_of_ask {stage : Stage} (asks : m.next = .ask stage) :
    h.follow env m elapsed s =
      let asked := env.ask (stage.request h) (env.commit m.hold m.events s)
      h.follow env (stage.resume (env.hold asked.2.2) asked.1) (elapsed + asked.2.1)
        asked.2.2 := by
  rw [follow]
  split
  · next finishes => cases asks.symm.trans finishes
  · next asks' =>
    obtain rfl := Next.ask.inj (asks.symm.trans asks')
    rfl

variable {env} {h} {elapsed} {s}

/-- A call that asks once more ends with what it does with the answer. -/
theorem follow_of_answer {stage : Stage} {answer : Answer} {took : Nat} {s' : σ}
    {result : Except StoreError Bool} (asks : m.next = .ask stage)
    (answers : env.ask (stage.request h) (env.commit m.hold m.events s) = (answer, took, s'))
    (finishes : (stage.resume (env.hold s') answer).next = .finish result) :
    let last := stage.resume (env.hold s') answer
    h.follow env m elapsed s = (result, elapsed + took, env.commit last.hold last.events s') := by
  rw [follow_of_ask env h elapsed s asks]
  simp only [answers]
  exact follow_of_finish env h _ s' finishes

/-- What holds of a move and is kept by every answer tells of the result. -/
theorem follow_induction {P : Move → σ → Prop} {Q : Except StoreError Bool → σ → Prop}
    (asked : ∀ m stage s answer took s', P m s → m.next = .ask stage →
      env.ask (stage.request h) (env.commit m.hold m.events s) = (answer, took, s') →
      P (stage.resume (env.hold s') answer) s')
    (finished : ∀ m result s, P m s → m.next = .finish result →
      Q result (env.commit m.hold m.events s))
    (start : P m s) {result : Except StoreError Bool} {took : Nat} {s' : σ}
    (followed : h.follow env m elapsed s = (result, took, s')) : Q result s' := by
  induction m, elapsed, s using follow.induct env h with
  | case1 m elapsed s result' finishes =>
    rw [follow_of_finish env h elapsed s finishes] at followed
    obtain ⟨rfl, -, rfl⟩ := followed
    exact finished _ _ _ start finishes
  | case2 m elapsed s s₁ stage asks answer took' s₂ ask ih =>
    rw [follow_of_ask env h elapsed s asks] at followed
    change env.ask (stage.request h) (env.commit m.hold m.events s) = (answer, took', s₂) at ask
    simp only [ask] at followed
    exact ih (asked _ _ _ _ _ _ start asks ask) followed

end Follow

/-- Runs a call: its result, and how long it took. -/
def run (env : Surroundings σ) (h : Handle) (call : Call) (s : σ) :
    Except StoreError Bool × Nat × σ :=
  h.follow env (call.start (env.hold s)) 0 s

/-- Gives the lock up. -/
def unlock (env : Surroundings σ) (h : Handle) (s : σ) : Bool × σ :=
  match h.run env .unlock s with
  | (.ok b, _, s) => (b, s)
  | (.error _, _, s) => (false, s)

/-! ## Waiting -/

/-- Waits for the lock until `limit` is over, of which `elapsed` already is. -/
def waitFrom (env : Surroundings σ) (isCancelled : σ → Bool) (h : Handle) (limit elapsed : Nat)
    (s : σ) : Except Error Bool × σ :=
  if isCancelled s then (.error (.interrupted h.key), s)
  else
    match h.run env .tryLock s with
    | (.error e, _, s) => (.error (.store e), s)
    | (.ok true, _, s) => (.ok true, s)
    | (.ok false, took, s) =>
      let elapsed := elapsed + took
      if limit ≤ elapsed then (.ok false, s)
      else
        let pause := min h.poll (limit - elapsed)
        let (late, s) := env.sleep pause s
        h.waitFrom env isCancelled limit (elapsed + pause + late) s
termination_by limit - elapsed
decreasing_by
  have := h.poll_pos
  omega

section Wait

variable {env : Surroundings σ} {isCancelled : σ → Bool} {h : Handle} {limit elapsed took : Nat}
  {s s' : σ}

theorem waitFrom_of_cancelled (cancelled : isCancelled s = true) :
    h.waitFrom env isCancelled limit elapsed s = (.error (.interrupted h.key), s) := by
  rw [waitFrom, if_pos cancelled]

/-- A wait ends with an attempt, unless this is refused before the wait is over. -/
theorem waitFrom_of_run {result : Except StoreError Bool} (calm : ¬isCancelled s = true)
    (ran : h.run env .tryLock s = (result, took, s'))
    (last : result = .ok false → limit ≤ elapsed + took) :
    h.waitFrom env isCancelled limit elapsed s = (result.mapError .store, s') := by
  rw [waitFrom, if_neg calm, ran]
  rcases result with e | _ | _
  · rfl
  · exact if_pos (last rfl)
  · rfl

/-- After a refusal a wait that is not over sleeps, and attempts the lock again. -/
theorem waitFrom_of_refused (calm : ¬isCancelled s = true)
    (ran : h.run env .tryLock s = (.ok false, took, s')) (left : ¬limit ≤ elapsed + took) :
    h.waitFrom env isCancelled limit elapsed s =
      let pause := min h.poll (limit - (elapsed + took))
      let slept := env.sleep pause s'
      h.waitFrom env isCancelled limit (elapsed + took + pause + slept.1) slept.2 := by
  rw [waitFrom, if_neg calm, ran]
  exact if_neg left

/-- What holds before every attempt of a wait tells of its result. -/
theorem waitFrom_induction {P : σ → Prop} {Q : Except Error Bool → σ → Prop}
    (interrupted : ∀ s, P s → Q (.error (.interrupted h.key)) s)
    (ended : ∀ s result took s', P s → h.run env .tryLock s = (result, took, s') →
      Q (result.mapError .store) s')
    (slept : ∀ s took s' pause late s'', P s → h.run env .tryLock s = (.ok false, took, s') →
      env.sleep pause s' = (late, s'') → P s'')
    (start : P s) {result : Except Error Bool}
    (waited : h.waitFrom env isCancelled limit elapsed s = (result, s')) : Q result s' := by
  induction elapsed, s using waitFrom.induct env isCancelled h limit with
  | case1 elapsed s cancelled =>
    rw [waitFrom_of_cancelled cancelled] at waited
    obtain ⟨rfl, rfl⟩ := waited
    exact interrupted _ start
  | case2 elapsed s calm e took s₁ ran =>
    rw [waitFrom_of_run calm ran (by simp)] at waited
    obtain ⟨rfl, rfl⟩ := waited
    exact ended _ _ _ _ start ran
  | case3 elapsed s calm took s₁ ran =>
    rw [waitFrom_of_run calm ran (by simp)] at waited
    obtain ⟨rfl, rfl⟩ := waited
    exact ended _ _ _ _ start ran
  | case4 elapsed s calm took s₁ ran spent late =>
    rw [waitFrom_of_run calm ran fun _ => late] at waited
    obtain ⟨rfl, rfl⟩ := waited
    exact ended _ _ _ _ start ran
  | case5 elapsed s calm took s₁ ran spent left pause late s₂ sleeps ih =>
    rw [waitFrom_of_refused calm ran left] at waited
    change h.waitFrom env isCancelled limit (spent + pause + (env.sleep pause s₁).1)
      (env.sleep pause s₁).2 = (result, s') at waited
    rw [sleeps] at waited
    exact ih (slept _ _ _ _ _ _ start ran sleeps) waited

end Wait

/-- Waits for the lock at most so long. -/
def tryLockFor (env : Surroundings σ) (h : Handle) (limit : Nat) (s : σ) :
    Except Error Bool × σ :=
  h.waitFrom env (fun _ => false) limit 0 s

/-- Waits for the lock at most so long, or until it is cancelled. -/
def tryLockInterruptibly (env : Surroundings σ) (isCancelled : σ → Bool) (h : Handle)
    (limit : Nat) (s : σ) : Except Error Bool × σ :=
  h.waitFrom env isCancelled limit 0 s

/-- Waits for the lock as long as its settings say. -/
def lock (env : Surroundings σ) (h : Handle) (s : σ) : Except Error Unit × σ :=
  match h.tryLockFor env h.wait s with
  | (.error e, s) => (.error e, s)
  | (.ok true, s) => (.ok (), s)
  | (.ok false, s) => (.error (.timeout h.key h.wait), s)

/-- A time-out is the refusal of a wait. -/
theorem refused_of_timeout {env : Surroundings σ} {h : Handle} {key : String} {waited : Nat}
    {s s' : σ} (timedOut : h.lock env s = (.error (.timeout key waited), s')) :
    h.tryLockFor env h.wait s = (.ok false, s') := by
  unfold lock at timedOut
  split at timedOut
  · next e s' failed =>
    obtain rfl := Except.error.inj (Prod.mk.inj timedOut).1
    have told : (.error (.timeout key waited) : Except Error Bool) ≠
        .error (.timeout key waited) := by
      refine waitFrom_induction (P := fun _ => True)
        (Q := fun result _ => result ≠ .error (.timeout key waited))
        ?_ ?_ (fun _ _ _ _ _ _ _ _ _ => trivial) trivial failed
      · rintro s - ⟨⟩
      · rintro s (e | b) took s' - - ⟨⟩
    exact absurd rfl told
  · cases timedOut
  · next refused =>
    obtain rfl := (Prod.mk.inj timedOut).2
    exact refused

end Handle

/-! ## Guards -/

/-- The duty to give a lock up once, on release or when it goes out of use. -/
structure Guard where
  handle : Handle
deriving DecidableEq, Repr

namespace Handle

/-- Waits for the lock and guards it. -/
def acquire (env : Surroundings σ) (h : Handle) (s : σ) : Except Error Guard × σ :=
  match h.lock env s with
  | (.error e, s) => (.error e, s)
  | (.ok (), s) => (.ok ⟨h⟩, s)

/-- Attempts the lock and guards it if it was to be had. -/
def tryAcquire (env : Surroundings σ) (h : Handle) (s : σ) : Except Error (Option Guard) × σ :=
  match h.run env .tryLock s with
  | (.error e, _, s) => (.error (.store e), s)
  | (.ok true, _, s) => (.ok (some ⟨h⟩), s)
  | (.ok false, _, s) => (.ok none, s)

end Handle

/-- Ends a guard: the lock is given up, and the answer tells whether it was held. -/
def Guard.release (env : Surroundings σ) (g : Guard) (s : σ) : Bool × σ := g.handle.unlock env s

/-! ## Owners -/

/-- Asks for the token in the key of a name. -/
def Manager.owner (m : Manager) (name : String) : Exchange Empty Error (Option String) :=
  .ofReply (Command.owner.request [m.key name] []) .store (Reply.asText? Command.owner.name)
    fun _ => []

/-- Asks whether the key of a name is taken. -/
def Manager.isLocked (m : Manager) (name : String) : Exchange Empty Error Bool :=
  (m.owner name).andThen fun token => .ok token.isSome

end Turnstile.Lock
