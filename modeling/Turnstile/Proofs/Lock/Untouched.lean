import Turnstile.Proofs.Lock.Site

/-!
# Attempts without success leave no trace

An attempt asks up to three questions, and a wait makes any number of attempts. Any of the questions
may fail, and others may do to the store what they like in between. `unsuccessful_untouched` : an
attempt or a wait that ends with a refusal or an error has left things as they were
(`Site.Untouched`). No question it asked has changed anything, and the handle believes to hold its
lock only if it did before.

The reason is that a question which changes something is answered yes, and a yes ends an attempt
with success (`Stage.resume_of_yes`).
-/

namespace Turnstile.Lock

/-! ## Moves -/

/-- A yes ends an attempt with success. -/
theorem Stage.resume_of_yes {stage : Stage} {hold : Hold} {reply : Reply}
    (attempt : stage.call = .tryLock) (yes : reply.isYes = true) :
    (stage.resume hold (.ok reply)).next = .finish (.ok true) := by
  cases stage with
  | renewing | releasing => cases attempt
  | extending | acquiring | reentering => simp [resume, yes]

/-- An answer makes a handle believe to hold its lock only with success. -/
theorem Stage.held_resume {stage : Stage} {hold : Hold} {answer : Answer}
    (held : (stage.resume hold answer).hold.held = true) :
    hold.held = true ∨ (stage.resume hold answer).next = .finish (.ok true) := by
  revert held
  fun_cases Stage.resume <;> simp_all

theorem Call.held_start {call : Call} {hold : Hold} (held : (call.start hold).hold.held = true) :
    hold.held = true := by
  revert held
  fun_cases Call.start <;> simp_all [Hold.none]

/-! ## Sites -/

/-- Others leave the store alone. -/
def Occasion.Calm (o : Occasion) : Prop := o.before.others = id ∧ o.after.others = id

namespace Site

/-- What a handle has left as it was, from one site to another that it has come to. -/
structure Untouched (p p' : Site) : Prop where
  /-- The questions that were asked have left no trace. -/
  visits : ∃ more, p'.visits = p.visits ++ more ∧ ∀ v ∈ more, v.Traceless
  /-- The handle believes to hold its lock only if it did before. -/
  held : p'.hold.held = true → p.hold.held = true
  now : p.now ≤ p'.now
  ahead : p'.ahead <:+ p.ahead
  /-- With nobody else about, the store shows what it would show had nothing been asked. -/
  alone : (∀ o ∈ p.ahead, o.Calm) → ∀ t, p'.now ≤ t → p'.store.live? t = p.store.live? t

namespace Untouched

variable {p q r : Site}

theorem refl (p : Site) : p.Untouched p where
  visits := ⟨[], (List.append_nil _).symm, by simp⟩
  held := id
  now := Nat.le_refl _
  ahead := List.suffix_refl _
  alone _ _ _ := rfl

theorem trans (first : p.Untouched q) (then' : q.Untouched r) : p.Untouched r where
  visits := by
    obtain ⟨more, visits, traceless⟩ := first.visits
    obtain ⟨more', visits', traceless'⟩ := then'.visits
    refine ⟨more ++ more', by rw [visits', visits, List.append_assoc], fun v mem => ?_⟩
    exact (List.mem_append.1 mem).elim (traceless v) (traceless' v)
  held held := first.held (then'.held held)
  now := Nat.le_trans first.now then'.now
  ahead := then'.ahead.trans first.ahead
  alone calm t le := by
    have calm' : ∀ o ∈ q.ahead, o.Calm := fun o mem => calm o (first.ahead.subset mem)
    rw [then'.alone calm' t le, first.alone calm t (Nat.le_trans then'.now le)]

/-- A handle that sets its flags leaves the rest as it is. -/
theorem commit (untouched : p.Untouched q) {hold : Hold}
    (held : hold.held = true → p.hold.held = true) (events : List Event) :
    p.Untouched (surroundings.commit hold events q) where
  visits := untouched.visits
  held := held
  now := untouched.now
  ahead := untouched.ahead
  alone := untouched.alone

theorem calm_next (calm : ∀ o ∈ p.ahead, o.Calm) : p.next.Calm := by
  unfold next
  cases ahead : p.ahead with
  | nil => exact ⟨rfl, rfl⟩
  | cons o rest => exact calm o (ahead ▸ List.mem_cons_self ..)

/-- A question without a trace. -/
theorem asked {request : Request} (traceless : (p.nextVisit request).Traceless) :
    p.Untouched (p.asked request) where
  visits := ⟨[p.nextVisit request], rfl, by simpa using traceless⟩
  held := id
  now := Nat.le_trans (Nat.le_add_right ..) (Nat.le_add_right ..)
  ahead := List.tail_suffix _
  alone calm t le := by
    obtain ⟨before, after⟩ := calm_next calm
    have le' : (p.nextVisit request).now ≤ t := by
      rw [nextVisit, now_visit]
      exact Nat.le_trans (Nat.le_add_right ..) le
    calc
      (p.asked request).store.live? t = (p.nextVisit request).after.live? t := by
        simp [Site.asked, wait, after]
      _ = (p.nextVisit request).before.live? t := traceless.later le'
      _ = p.store.live? t := by simp [nextVisit, wait, before]

theorem slept (span : Nat) : p.Untouched (p.slept span) where
  visits := ⟨[], (List.append_nil _).symm, by simp⟩
  held := id
  now := Nat.le_trans (Nat.le_add_right ..) (Nat.le_add_right ..)
  ahead := List.tail_suffix _
  alone calm t le := by
    obtain ⟨before, after⟩ := calm_next calm
    simp [Site.slept, wait, before]

end Untouched

end Site

/-! ## Attempts and waits -/

/-- A move after which an attempt has succeeded, or has changed nothing since a site. -/
def Move.Harmless (p : Site) (m : Move) (q : Site) : Prop :=
  m.next = .finish (.ok true) ∨
    p.Untouched (Site.surroundings.commit m.hold m.events q) ∧
      ∀ stage, m.next = .ask stage → stage.Fits m.hold ∧ stage.call = .tryLock

/-- An answer leads from a harmless move to another one. -/
theorem Move.Harmless.resume {h : Handle} {p q : Site} {m : Move} {stage : Stage}
    (harmless : m.Harmless p q) (asks : m.next = .ask stage) :
    let asked := Site.surroundings.ask (stage.request h)
      (Site.surroundings.commit m.hold m.events q)
    (stage.resume m.hold asked.1).Harmless p asked.2.2 := by
  intro asked
  obtain ⟨untouched, fits⟩ := harmless.resolve_left (by simp [asks])
  obtain ⟨fits, attempt⟩ := fits stage asks
  by_cases done : (stage.resume m.hold asked.1).next = .finish (.ok true)
  · exact .inl done
  · have no : ∀ reply, asked.1 = .ok reply → reply.isYes = false := by
      intro reply answered
      refine Bool.eq_false_iff.2 fun yes => done ?_
      rw [answered]
      exact Stage.resume_of_yes attempt yes
    have answered := untouched.trans (.asked (Site.traceless_visit _ _ no))
    refine .inr ⟨answered.commit (fun held => ?_) _, fun next asks' => ?_⟩
    · exact untouched.held ((Stage.held_resume held).resolve_right done)
    · obtain ⟨fits', same⟩ := Stage.fits_resume fits asks'
      exact ⟨fits', same.trans attempt⟩

namespace Handle

variable {h : Handle} {p p' : Site}

/-- An attempt without success leaves things as they were. -/
theorem untouched_run {result : Except StoreError Bool} {took : Nat}
    (ran : h.run Site.surroundings .tryLock p = (result, took, p')) :
    result = .ok true ∨ p.Untouched p' := by
  refine follow_induction (P := Move.Harmless p)
    (Q := fun result p' => result = .ok true ∨ p.Untouched p') ?asked ?finished ?started ran
  case started =>
    exact .inr ⟨(Site.Untouched.refl p).commit Call.held_start _, fun stage => Call.fits_start⟩
  case asked =>
    intro m stage q answer took q' harmless asks ask
    have resumed := harmless.resume (h := h) asks
    rw [ask] at resumed
    have hold : Site.surroundings.hold q' = m.hold := by
      have kept := Site.keepsHold_surroundings.ask (stage.request h)
        (Site.surroundings.commit m.hold m.events q)
      rwa [ask] at kept
    rwa [hold]
  case finished =>
    intro m result q harmless finishes
    refine harmless.imp (fun done => ?_) And.left
    exact Next.finish.inj (finishes.symm.trans done)

/-- So does a wait without success. -/
theorem untouched_waitFrom {isCancelled : Site → Bool} {limit elapsed : Nat}
    {result : Except Error Bool}
    (waited : h.waitFrom Site.surroundings isCancelled limit elapsed p = (result, p')) :
    result = .ok true ∨ p.Untouched p' := by
  refine waitFrom_induction (P := p.Untouched)
    (Q := fun result p' => result = .ok true ∨ p.Untouched p') ?interrupted ?ended ?slept
    (.refl p) waited
  case interrupted => exact fun q untouched => .inr untouched
  case ended =>
    intro q result took q' untouched ran
    refine (untouched_run ran).imp (fun done => ?_) untouched.trans
    rw [done]
    rfl
  case slept =>
    intro q took q₁ pause late q₂ untouched ran slept
    have refused := (untouched_run ran).resolve_left (by simp)
    obtain ⟨-, rfl⟩ := slept
    exact (untouched.trans refused).trans (.slept pause)

end Handle

/-- An attempt or a wait that does not succeed, in any state of the store and of the handle. Any of
its questions may fail without being evaluated, and others may change the store in any way around
each of them and during each sleep. If it ends with a refusal or with an error, be it one of the
store, a time-out or an interruption, then

- no question that it asked changed what is live in any key, neither the value nor the expiry;
- with nobody else about, the store shows from then on what it would show without it;
- the handle believes to hold its lock only if it did before. -/
theorem unsuccessful_untouched (h : Handle) (p : Site) :
    (∀ result took p', h.run Site.surroundings .tryLock p = (result, took, p') →
      result ≠ .ok true → p.Untouched p') ∧
    (∀ limit result p', h.tryLockFor Site.surroundings limit p = (result, p') →
      result ≠ .ok true → p.Untouched p') ∧
    (∀ isCancelled limit result p',
      h.tryLockInterruptibly Site.surroundings isCancelled limit p = (result, p') →
      result ≠ .ok true → p.Untouched p') ∧
    ∀ result p', h.lock Site.surroundings p = (result, p') →
      result ≠ .ok () → p.Untouched p' := by
  refine ⟨?attempt, ?wait, ?interruptible, ?lock⟩
  case attempt => exact fun _ _ _ ran failed => (Handle.untouched_run ran).resolve_left failed
  case wait =>
    exact fun _ _ _ waited failed => (Handle.untouched_waitFrom waited).resolve_left failed
  case interruptible =>
    exact fun _ _ _ _ waited failed => (Handle.untouched_waitFrom waited).resolve_left failed
  case lock =>
    intro result p' locked failed
    unfold Handle.lock at locked
    split at locked
    · next waited =>
      obtain ⟨rfl, rfl⟩ := locked
      exact (Handle.untouched_waitFrom waited).resolve_left (by simp)
    · next waited =>
      obtain ⟨rfl, rfl⟩ := locked
      exact absurd rfl failed
    · next waited =>
      obtain ⟨rfl, rfl⟩ := locked
      exact (Handle.untouched_waitFrom waited).resolve_left (by simp)

/-- A store with the lock of another handle, where the second question is lost. -/
def outage : Site where
  store := Keyspace.put {} "distributed_lock:x"
    ⟨.text (Crew.twoThreads.handle false).token.text, some (30 * Time.second)⟩
  ahead := [{}, { lost := some (.connection "down") }]

theorem run_outage :
    ∃ p', (Crew.twoThreads.handle true).run Site.surroundings .tryLock outage =
        (.error (.connection "down"), 0, p') ∧ p'.visits.length = 2 := by
  refine ⟨?left, ?ran, ?asked⟩
  case ran =>
    rw [Handle.run, Handle.follow_of_ask _ _ _ _ rfl, Handle.follow_of_ask _ _ _ _ rfl,
      Handle.follow_of_finish _ _ _ _ rfl]
    rfl
  case asked => rfl

theorem unsuccessful_untouched_outage :
    let h := Crew.twoThreads.handle true
    ∃ p', h.run Site.surroundings .tryLock outage = (.error (.connection "down"), 0, p') ∧
      p'.visits.length = 2 ∧ outage.Untouched p' ∧
      outage.Untouched (h.tryLockFor Site.surroundings 0 outage).2 ∧
      outage.Untouched (h.tryLockInterruptibly Site.surroundings (fun p => p.now = 0) 0 outage).2 ∧
      outage.Untouched (h.lock Site.surroundings outage).2 := by
  intro h
  obtain ⟨p', ran, asked⟩ := run_outage
  have waited (limit : Nat) : h.tryLockFor Site.surroundings limit outage =
      (.error (.store (.connection "down")), p') := Handle.waitFrom_of_run (by simp) ran (by simp)
  have interrupted : h.tryLockInterruptibly Site.surroundings (fun p => p.now = 0) 0 outage =
      (.error (.interrupted h.key), outage) := Handle.waitFrom_of_cancelled rfl
  have locked : h.lock Site.surroundings outage = (.error (.store (.connection "down")), p') := by
    rw [Handle.lock, waited]
  obtain ⟨attempt, wait, interruptible, lock⟩ := unsuccessful_untouched h outage
  refine ⟨p', ran, asked, attempt _ _ _ ran (by simp), ?wait, ?interruptible, ?lock⟩
  case wait =>
    rw [waited]
    exact wait _ _ _ (waited 0) (by simp)
  case interruptible =>
    rw [interrupted]
    exact interruptible _ _ _ _ interrupted (by simp)
  case lock =>
    rw [locked]
    exact lock _ _ locked (by simp)

end Turnstile.Lock
