import Turnstile.Proofs.Lock.Expiry
import Turnstile.Proofs.Lock.Renewal

/-!
# Guards of one handle

A handle keeps one flag about its hold and no count. When it is attempted again while it holds
its lock, it extends the lease and gives out one more guard, but the first guard that ends
deletes the key, whatever other guards there are (`second_guard`). So a guard keeps the lock
only until some guard of its handle ends.

`guards_share_lock` is about a handle whose thread has no other handle on the key, among hosts
without colons. Such a handle never holds its lock reentrant (`Crew.unnested_run`), so that a
guard it gives out is due to a lease of its own token (`Crew.sure_run`), and as long as it
begins no unlock it retains the lock (`Crew.Retains.run`). Giving out one more guard begins none
(`Crew.givenOut_of_tryAcquire`, `Crew.givenOut_of_acquire`), so the handle can go on like this.
-/

namespace Turnstile.Lock

/-! ## A handle that is alone on its thread -/

theorem Call.not_isReentrant_start {call : Call} {hold : Hold}
    (plain : hold.isReentrant = false) : (call.start hold).hold.isReentrant = false := by
  fun_cases Call.start <;> simp_all [Hold.isReentrant, Hold.none]

theorem Stage.not_isReentrant_resume {stage : Stage} {hold : Hold} {answer : Answer}
    (plain : hold.isReentrant = false)
    (refused : ∀ reply, stage = .reentering → answer = .ok reply → reply.isYes = false) :
    (stage.resume hold answer).hold.isReentrant = false := by
  fun_cases Stage.resume <;> simp_all [Hold.isReentrant, Hold.fresh]

namespace Client

/-- A handle does not hold its lock reentrant, nor has it been let in. -/
structure Unnested (c : Client) : Prop where
  plain : c.hold.isReentrant = false
  refused : ∀ op since reply, c.task = .answered op since .reentering (.ok reply) →
    reply.isYes = false

theorem Acted.unnested {h : Handle} {now : Nat} {c c' : Client} {a : Act}
    (acted : Acted h now c a c') (unnested : c.Unnested) : c'.Unnested := by
  refine ⟨?_, fun op since reply answered =>
    unnested.refused op since reply (acted.answered answered)⟩
  cases acted with
  | idle | waited | failed | interrupted => exact unnested.plain
  | called | woken =>
    rw [hold_move]
    exact Call.not_isReentrant_start unnested.plain
  | resumed answered =>
    rw [hold_move]
    refine Stage.not_isReentrant_resume unnested.plain ?_
    rintro reply rfl rfl
    exact unnested.refused _ _ _ answered

/-- A guard was just given out : the last operation was an attempt or a wait, and it ended with
success. -/
structure Obtained (c : Client) : Prop where
  free : c.task = .free
  success : ∃ op results, op.attempt = .tryLock ∧ c.results = (op, .ok true) :: results

/-- An act after which a guard was just given out, when that was not so before, takes an answer
in that gave a lease to the handle's own token. -/
theorem Acted.obtained {h : Handle} {now : Nat} {c c' : Client} {a : Act}
    (acted : Acted h now c a c') (obtained : c'.Obtained) (fits : c.task.Fits c.hold)
    (unnested : c.Unnested) :
    c' = c ∨ a = .resume ∧ ∃ op since stage reply,
      c.task = .answered op since stage (.ok reply) ∧ stage.grants (.ok reply) = true := by
  obtain ⟨free, op, results, attempt, success⟩ := obtained
  have moved {op' : Op} {since : Nat} {m : Move} (free : (c.move h now op' since m).task = .free)
      (success : (c.move h now op' since m).results = (op, .ok true) :: results) :
      op' = op ∧ m.next = .finish (.ok true) := by
    unfold move at free success
    split at free
    · cases free
    · next result finishes =>
      simp only [finishes] at success
      obtain ⟨r, settled, yes⟩ | ⟨_, _, settled⟩ :=
        settle_cases h now op' since { c with hold := m.hold } result
      · rw [settled] at success
        obtain ⟨rfl, rfl⟩ := Prod.mk.inj (List.cons.inj success).1
        exact ⟨rfl, by rw [finishes, yes rfl]⟩
      · rw [settled] at free
        cases free
  cases acted with
  | idle => exact .inl rfl
  | @called call =>
    obtain ⟨rfl, finishes⟩ := moved free success
    obtain rfl : call = .tryLock := attempt
    exact absurd finishes (Call.start_lasts (by simp) _).2
  | waited | failed => cases free
  | interrupted => cases success
  | woken => exact absurd (moved free success).2 (Call.start_lasts (by simp) _).2
  | @resumed op' since stage answer answered =>
    obtain ⟨rfl, finishes⟩ := moved free success
    rw [answered] at fits
    have call : stage.call = .tryLock := fits.2.trans attempt
    have lasting : stage ≠ .releasing := by
      rintro rfl
      cases call
    obtain ⟨reply, rfl, yes⟩ := (Stage.resume_lasts lasting c.hold answer).2 finishes
    refine .inr ⟨rfl, _, _, _, _, answered, ?_⟩
    cases stage with
    | renewing | releasing => cases call
    | extending | acquiring => exact yes
    | reentering => cases yes.symm.trans (unnested.refused _ _ _ answered)

end Client

namespace Crew

variable {ι : Type} {crew : Crew ι} {s s' : System ι} {i : ι} {t : Nat}

section Alone

variable (hosts : ∀ i, ':' ∉ (crew.handle i).token.host.toList)
  (alone : ∀ j, j ≠ i → crew.Foreign i j)

include hosts alone

/-- A stored token that is of the owner of a handle alone on its thread is its own. -/
theorem eq_of_sameOwner {j : ι}
    (owns : (crew.handle i).token.sameOwner (crew.handle j).token.text = true) : j = i := by
  by_contra other
  cases owns.symm.trans ((alone j other).sameOwner hosts)

theorem eq_of_text_eq_of_alone (j : ι)
    (same : (crew.handle j).token.text = (crew.handle i).token.text) : j = i := by
  refine eq_of_sameOwner hosts alone ?_
  rw [same]
  exact Token.sameOwner_text _

/-- A handle that does not know its token in the key is not let in by another token. -/
theorem refused_of_alone (known : crew.Known s i) (leased : crew.Leased s) {op : Op}
    {since : Nat} (fits : (s.client i).task.Fits (s.client i).hold)
    (asking : (s.client i).task = .asking op since .reentering) {reply : Reply}
    {live' : Option Entry}
    (outcome : Stage.Outcome (crew.handle i) s.now (crew.live s) .reentering (.ok reply) live') :
    reply.isYes = false := by
  by_contra yes
  rw [Bool.not_eq_false] at yes
  cases live : crew.live s with
  | none =>
    rw [live] at outcome
    cases outcome
    cases yes
  | some e =>
    obtain ⟨j, _, _, rfl, -⟩ := leased e live
    rw [live] at outcome
    obtain rfl := eq_of_sameOwner hosts alone (outcome.owns_of_yes yes)
    rw [asking] at fits
    rcases known ⟨_, live⟩ with fresh | ⟨_, _, _, task, -⟩ | ⟨_, _, task⟩
    · cases fits.1.symm.trans fresh
    · cases asking.symm.trans task
    · cases asking.symm.trans task

variable [DecidableEq ι]

omit hosts in
/-- No step is one of another handle of the thread. -/
theorem apart_of_alone (x : Step ι) : crew.Apart i x := fun j _ =>
  (eq_or_ne j i).imp_right (alone j)

/-- A handle alone on its thread never holds its lock reentrant, as long as the store sees its
releases. -/
theorem unnested_run (steps : List (Step ι)) :
    ¬crew.ReleaseFailed i steps → ((crew.run steps).client i).Unnested := by
  induction steps using List.reverseRecOn with
  | nil => exact fun _ => ⟨rfl, fun _ _ _ answered => by cases answered⟩
  | append_singleton steps x ih =>
    intro seen
    have seen' : ¬crew.ReleaseFailed i steps := fun failed => seen (failed.append x)
    rw [run_append]
    obtain same | ⟨a, -, acted⟩ | ⟨op, since, stage, answer, -, asking, outcome, client⟩ :=
      crew.client_step (crew.run steps) x i
    · rw [same]
      exact ih seen'
    · exact acted.unnested (ih seen')
    · rw [client]
      refine ⟨(ih seen').plain, ?_⟩
      rintro op' since' reply answered
      obtain ⟨rfl, rfl, rfl, rfl⟩ := Task.answered.inj answered
      have known := known_run_of_own (eq_of_text_eq_of_alone hosts alone) steps seen'
      exact refused_of_alone hosts alone known (crew.leased_run steps) (crew.fits_run steps i)
        asking outcome

end Alone

/-! ## A guard is due to a lease -/

variable [DecidableEq ι]

omit [DecidableEq ι] in
/-- Whether a handle retains its lock is seen from the key, the handle and the time. -/
theorem Retains.congr (retains : crew.Retains s i t) (now : s'.now = s.now)
    (client : s'.client i = s.client i) (live : crew.live s' = crew.live s) :
    crew.Retains s' i t := by
  refine ⟨?_, ?_, ?_, ?_, ?_⟩
  · rw [client]
    exact retains.granted
  · rw [client]
    exact retains.lasts
  · rw [now, client]
    exact retains.knows
  · unfold LeasedFrom
    rw [now, live]
    exact retains.leased
  · rw [now, client]
    exact retains.told

/-- A handle retains its lock if it was just given a guard, or is about to hear of a lease of its
token. -/
structure Sure (crew : Crew ι) (s : System ι) (i : ι) : Prop where
  obtained : (s.client i).Obtained → ∃ t, crew.Retains s i t
  granted : ∀ op since stage reply, (s.client i).task = .answered op since stage (.ok reply) →
    stage.grants (.ok reply) = true → ∃ t, crew.Retains s i t

variable (hosts : ∀ i, ':' ∉ (crew.handle i).token.host.toList)

/-- What a handle does on its own keeps it sure. -/
theorem Sure.step_act (sure : crew.Sure s i) (unnested : (s.client i).Unnested)
    (fits : (s.client i).task.Fits (s.client i).hold) (a : Act) :
    crew.Sure (crew.step s (.act i a)) i := by
  have acted : (s.client i).Acted (crew.handle i) s.now a
      ((crew.step s (.act i a)).client i) := by
    rw [client_act]
    exact (s.client i).acted (crew.handle i) s.now a
  have idle (same : (crew.step s (.act i a)).client i = s.client i)
      (retains : ∃ t, crew.Retains s i t) : ∃ t, crew.Retains (crew.step s (.act i a)) i t :=
    retains.imp fun t retains => retains.congr rfl same rfl
  refine ⟨fun obtained => ?_, fun op since stage reply answered grants => ?_⟩
  · rcases acted.obtained obtained fits unnested with
      same | ⟨rfl, op, since, stage, reply, answered, grants⟩
    · exact idle same (sure.obtained (same ▸ obtained))
    · obtain ⟨t, retains⟩ := sure.granted op since stage reply answered grants
      exact ⟨t, retains.step_act fits (by simp)⟩
  · exact idle (acted.eq_of_answered answered)
      (sure.granted op since stage reply (acted.answered answered) grants)

/-- A question of its own keeps a handle sure : the answer brings a lease or does not. -/
theorem Sure.step_ask (sure : crew.Sure s i)
    (fits : (s.client i).task.Fits (s.client i).hold) : crew.Sure (crew.step s (.ask i)) i := by
  by_cases asks : ∃ op since stage, (s.client i).task = .asking op since stage
  · obtain ⟨op, since, stage, asking⟩ := asks
    obtain ⟨answer, outcome, client⟩ := crew.step_ask s asking
    replace client : (crew.step s (.ask i)).client i =
        (s.client i).answer s.now op since stage answer := by
      rw [client, Function.update_self]
    refine ⟨fun obtained => ?_, fun op' since' stage' reply answered grants => ?_⟩
    · have free := obtained.free
      rw [client] at free
      cases free
    · rw [client] at answered
      obtain ⟨rfl, rfl, rfl, rfl⟩ := Task.answered.inj answered
      exact ⟨s.now, retains_of_grants fits asking outcome client grants⟩
  · rwa [crew.step_ask_of_not s fun op since stage asking => asks ⟨op, since, stage, asking⟩]

include hosts

theorem Sure.step_other (sure : crew.Sure s i) {x : Step ι} (apart : crew.Apart i x)
    (other : x.isOf i = false) : crew.Sure (crew.step s x) i := by
  have client : (crew.step s x).client i = s.client i := client_step_of_other other
  have kept (retains : ∃ t, crew.Retains s i t) : ∃ t, crew.Retains (crew.step s x) i t :=
    retains.imp fun t retains => retains.step_other hosts apart other
  refine ⟨?_, ?_⟩
  · rw [client]
    exact fun obtained => kept (sure.obtained obtained)
  · rw [client]
    exact fun op since stage reply answered grants =>
      kept (sure.granted op since stage reply answered grants)

/-- In every run in which the store sees its releases, a handle alone on its thread retains the
lock of a guard that it was just given. -/
theorem sure_run (alone : ∀ j, j ≠ i → crew.Foreign i j) (steps : List (Step ι)) :
    ¬crew.ReleaseFailed i steps → crew.Sure (crew.run steps) i := by
  induction steps using List.reverseRecOn with
  | nil =>
    refine fun _ => ⟨?_, fun _ _ _ _ answered => by cases answered⟩
    rintro ⟨-, _, _, -, success⟩
    cases success
  | append_singleton steps x ih =>
    intro seen
    have seen' : ¬crew.ReleaseFailed i steps := fun failed => seen (failed.append x)
    have fits := crew.fits_run steps i
    rw [run_append]
    by_cases own : x.isOf i = true
    · cases x with
      | act j a =>
        obtain rfl : j = i := by simpa [Step.isOf] using own
        exact (ih seen').step_act (unnested_run hosts alone steps seen') fits a
      | ask j =>
        obtain rfl : j = i := by simpa [Step.isOf] using own
        exact (ih seen').step_ask fits
      | pass | other => cases own
    · exact (ih seen').step_other hosts (apart_of_alone alone x) (Bool.eq_false_iff.2 own)

end Crew

/-! ## Guards -/

section Guards

variable {σ : Type} {env : Surroundings σ} {h : Handle} {s s' : σ} {took : Nat}

/-- An attempt that succeeds gives out a guard. -/
theorem Handle.tryAcquire_of_run (ran : h.run env .tryLock s = (.ok true, took, s')) :
    h.tryAcquire env s = (.ok (some ⟨h⟩), s') := by
  unfold tryAcquire
  rw [ran]

/-- A wait whose first attempt succeeds gives out a guard. -/
theorem Handle.acquire_of_run (ran : h.run env .tryLock s = (.ok true, took, s')) :
    h.acquire env s = (.ok ⟨h⟩, s') := by
  have waited : h.tryLockFor env h.wait s = (.ok true, s') :=
    waitFrom_of_run (by simp) ran (by simp)
  unfold acquire lock
  rw [waited]

end Guards

namespace Crew

variable {ι : Type} [DecidableEq ι] {crew : Crew ι} {i : ι} {p p' : Course ι} {g : Guard}

/-- A handle was given a guard after a run : the run goes on, without an unlock of the handle that
begins, to a system in which the guard was just given out. But for what the handle is at, and has
done, this is the system that there is now. -/
def GivenOut (crew : Crew ι) (i : ι) (steps : List (Step ι)) (p : Course ι) : Prop :=
  ∃ (more : List (Step ι)) (c : Client), (∀ x ∈ more, x ≠ .act i (.begin (.call .unlock))) ∧
    crew.run (steps ++ more) = p.system.setClient i c ∧ c.Obtained ∧
      c.hold = (p.system.client i).hold

theorem GivenOut.of_reaches {steps : List (Step ι)} {op : Op} {c : Client}
    (attempt : op.attempt = .tryLock)
    (reaches : crew.Reaches i op (crew.run steps) (p.system.setClient i c)) (obtained : c.Obtained)
    (hold : c.hold = (p.system.client i).hold) : crew.GivenOut i steps p := by
  obtain ⟨more, only, run⟩ := reaches.run
  refine ⟨more, c, fun x mem => ?_, run, obtained, hold⟩
  rintro rfl
  obtain rfl := only _ mem _ rfl
  cases attempt

section Acquired

variable {steps : List (Step ι)} (start : p.system = crew.run steps)
  (free : (p.system.client i).task = .free)

include start free

/-- A guard of an attempt is one of the handle, and is given out by the steps of the attempt. -/
theorem givenOut_of_tryAcquire
    (acquired : (crew.handle i).tryAcquire (crew.among i) p = (.ok (some g), p')) :
    g.handle = crew.handle i ∧ crew.GivenOut i steps p' := by
  unfold Handle.tryAcquire at acquired
  split at acquired
  · cases acquired
  · next took p'' ran =>
    cases acquired
    obtain ⟨c, reaches, free', hold, results, -⟩ := reaches_run ran free
    rw [start] at reaches
    exact ⟨rfl, .of_reaches rfl reaches ⟨free', _, _, rfl, results⟩ hold⟩
  · cases acquired

/-- A guard of a wait is one of the handle, and is given out by the steps of the wait. -/
theorem givenOut_of_acquire
    (acquired : (crew.handle i).acquire (crew.among i) p = (.ok g, p')) :
    g.handle = crew.handle i ∧ crew.GivenOut i steps p' := by
  unfold Handle.acquire Handle.lock at acquired
  split at acquired
  · cases acquired
  · next p'' locked =>
    cases acquired
    split at locked
    · cases locked
    · next waited =>
      cases locked
      obtain ⟨c, reaches, free', hold, results⟩ := reaches_wait waited free
      rw [start] at reaches
      exact ⟨rfl, .of_reaches rfl reaches ⟨free', _, _, rfl, results⟩ hold⟩
    · cases locked

end Acquired

/-- The store sees every release in a run in which it does not fail. -/
theorem not_releaseFailed {steps : List (Step ι)}
    (heard : ∀ reason, .act i (.fail reason) ∉ steps) : ¬crew.ReleaseFailed i steps := by
  rintro ⟨before, reason, _, _, start, -⟩
  exact heard reason (start.subset (by simp))

/-- A guard that ends while its handle holds nothing leaves everything as it is. -/
theorem unlock_of_none (hold : (p.system.client i).hold = .none) :
    (crew.handle i).unlock (crew.among i) p = (false, p) := by
  have start : Call.unlock.start ((crew.among i).hold p) =
      ⟨(crew.among i).hold p, [], .finish (.ok false)⟩ := by
    rw [show (crew.among i).hold p = .none from hold]
    rfl
  have ran : (crew.handle i).run (crew.among i) .unlock p = (.ok false, 0, p) := by
    rw [Handle.run, start, Handle.follow_of_finish _ _ _ _ rfl, crew.commit_hold]
  unfold Handle.unlock
  rw [ran]

end Crew

/-- Guards of one handle share its lock. Let no other handle of a crew, whose hosts have no
colons, be of the thread of a handle, let the store see the releases of the handle, and let the
handle just have been given a guard. As long as it begins no unlock since then, which is as long
as no guard of it ends, the key holds its token up to the end of the last lease that the store
gave it, whatever others do.

Then every further attempt or wait within that lease gives out one more guard, by steps of which
none begins an unlock, so that the same goes for the system after it. The first guard of the handle
that ends within it, whichever that is, deletes the key, although the others are still there; and
those that end next find nothing to give up. -/
theorem guards_share_lock {ι : Type} [DecidableEq ι] (crew : Crew ι)
    (hosts : ∀ i, ':' ∉ (crew.handle i).token.host.toList) (i : ι)
    (alone : ∀ j, j ≠ i → crew.Foreign i j) (past later : List (Step ι))
    (seen : ¬crew.ReleaseFailed i past) (obtained : ((crew.run past).client i).Obtained)
    (stays : ∀ x ∈ later, x ≠ .act i (.begin (.call .unlock))) :
    let s := crew.run (past ++ later)
    let h := crew.handle i
    let env := crew.among i
    ∃ t, (s.client i).granted = some t ∧
      (s.now < t + h.span →
        crew.live s = some ⟨.text h.token.text, some (t + h.span)⟩) ∧
      ((s.client i).task = .free → ∀ turn turns, turn.lost = none →
        s.now + elapsed turn.before < t + h.span →
        (∃ p, h.tryAcquire env ⟨s, turn :: turns⟩ = (.ok (some ⟨h⟩), p) ∧
          crew.GivenOut i (past ++ later) p) ∧
        (∃ p, h.acquire env ⟨s, turn :: turns⟩ = (.ok ⟨h⟩, p) ∧
          crew.GivenOut i (past ++ later) p) ∧
        ∀ first : Guard, first.handle = h → ∃ s',
          let p : Course ι := ⟨crew.others i s' turn.after, turns⟩
          first.release env ⟨s, turn :: turns⟩ = (true, p) ∧ crew.live s' = none ∧
            ∀ next : Guard, next.handle = h → next.release env p = (false, p)) := by
  intro s h env
  obtain ⟨t, retains⟩ := (Crew.sure_run hosts alone past seen).obtained obtained
  obtain ⟨t, retains⟩ := retains.run hosts fun x mem => ⟨Crew.apart_of_alone alone x, stays x mem⟩
  refine ⟨t, retains.granted, retains.leased, fun free turn turns heard early => ?_⟩
  have lasts : s.now < t + h.span := Nat.lt_of_le_of_lt (Nat.le_add_right ..) early
  have fresh : (s.client i).hold.isFresh = true := (retains.knows lasts).isFresh (.inl free)
  have fits := Crew.leaseMillis_le_of_granted _ retains.granted
  have peaceful : crew.Peaceful i turn :=
    ⟨heard, fun x _ => Crew.apart_of_alone alone x, fun x _ => Crew.apart_of_alone alone x⟩
  obtain ⟨took, s₁, ran, -⟩ := Crew.extend_own hosts fits (.inr rfl)
    (fun _ => Call.start_tryLock) fresh (retains.leased lasts) peaceful early
  have attempted := Handle.tryAcquire_of_run ran
  have waited := Handle.acquire_of_run ran
  refine ⟨⟨_, attempted, (Crew.givenOut_of_tryAcquire rfl free attempted).2⟩,
    ⟨_, waited, (Crew.givenOut_of_acquire rfl free waited).2⟩, ?_⟩
  rintro ⟨_⟩ rfl
  obtain ⟨s', ended, gone, hold⟩ :=
    Crew.give_up_own hosts fresh (retains.leased lasts) peaceful early
  refine ⟨s', ended, gone, ?_⟩
  rintro ⟨_⟩ rfl
  refine Crew.unlock_of_none ?_
  rw [Crew.client_others, hold]

/-- Two handles of different hosts, where the owner of the second is what the token of the first
begins with. -/
def Crew.colons : Crew Bool where
  key := "distributed_lock:x"
  handle second :=
    { Crew.twoThreads.handle second with
      token := if second then TokenSource.token ⟨"h", 1⟩ 1 1 else TokenSource.token ⟨"h:1.1", 1⟩ 2 2
      lease := if second then Time.second else 30 * Time.second }
  key_handle _ := rfl
  obtained second := by
    cases second with
    | false => exact ⟨{ source := ⟨"h:1.1", 1⟩ }, 2, ⟨1, SerialCounter.tokenLimit⟩, "x", none, rfl⟩
    | true =>
      exact ⟨{ source := ⟨"h", 1⟩ }, 1, ⟨0, SerialCounter.tokenLimit⟩, "x",
        some { lease := Time.second }, rfl⟩

/-- The second handle attempts the lock, asking twice, and then its lease runs out. -/
def enteringHold : List (Step Bool) :=
  Step.call true .tryLock 2 ++ [.pass (2 * Time.second)]

/-- A handle gives out two guards, one after the other. The first of them that ends deletes the key
within the lease, while the other is still there. And with colons in hosts, a handle of another host
can enter the hold of a guard and shorten its lease, so that the key is gone before the lease of the
guard is over, and before the guard ends. -/
theorem second_guard :
    (Crew.twoThreads.Foreign false true ∧
      let h := Crew.twoThreads.handle false
      let env := Crew.twoThreads.among false
      let first := h.tryAcquire env ⟨{}, []⟩
      let second := h.tryAcquire env first.2
      let ended := Guard.release env ⟨h⟩ second.2
      first.1 = .ok (some ⟨h⟩) ∧ second.1 = .ok (some ⟨h⟩) ∧ ended.1 = true ∧
        ended.2.system.now < h.span ∧ ¬Crew.twoThreads.InKey ended.2.system false) ∧
    Crew.colons.Foreign false true ∧
      let h := Crew.colons.handle false
      let given := h.tryAcquire (Crew.colons.among false) ⟨{}, []⟩
      let s := Crew.colons.others false given.2.system enteringHold
      given.1 = .ok (some ⟨h⟩) ∧ s.now < h.span ∧ ¬Crew.colons.InKey s false :=
  ⟨⟨by decide, by decide +kernel⟩, by decide, by decide +kernel⟩

/-- One guard after the other is given out, and another thread attempts the lock around the end
of the first of them. -/
def contestedEnd : Turn Bool where
  before := [.pass (20 * Time.second), .act true (.begin (.call .tryLock)), .ask true]
  after := [.act true .resume, .ask true, .act true .resume]

theorem guards_share_lock_contest :
    let s := Crew.twoThreads.run (Step.call false .tryLock 1 ++ Step.call false .tryLock 1)
    let h := Crew.twoThreads.handle false
    let env := Crew.twoThreads.among false
    (∃ p, h.tryAcquire env ⟨s, [contestedEnd]⟩ = (.ok (some ⟨h⟩), p) ∧
      Crew.twoThreads.GivenOut false
        (Step.call false .tryLock 1 ++ Step.call false .tryLock 1) p) ∧
      ∃ s', Guard.release env ⟨h⟩ ⟨s, [contestedEnd]⟩ =
          (true, ⟨Crew.twoThreads.others false s' contestedEnd.after, []⟩) ∧
        Crew.twoThreads.live s' = none := by
  intro s h env
  have seen : ¬Crew.twoThreads.ReleaseFailed false (Step.call false .tryLock 1) :=
    Crew.not_releaseFailed (by simp [Step.call])
  have obtained : ((Crew.twoThreads.run (Step.call false .tryLock 1)).client false).Obtained :=
    ⟨rfl, _, _, rfl, by rfl⟩
  obtain ⟨t, granted, -, guards⟩ := guards_share_lock Crew.twoThreads (by decide) false (by decide)
    _ (Step.call false .tryLock 1) seen obtained (by decide)
  obtain rfl : 0 = t := Option.some.inj granted
  obtain ⟨another, -, ends⟩ := guards rfl contestedEnd [] rfl (by decide)
  obtain ⟨s', released, gone, -⟩ := ends ⟨h⟩ rfl
  exact ⟨another, s', released, gone⟩

end Turnstile.Lock
