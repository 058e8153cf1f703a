import Turnstile.Proofs.Lock.Crew

/-!
# What an unlock leaves behind

An unlock that succeeds should leave the key without the handle's token. It does, unless it
gave up a reentrant hold on the handle's own token : then nothing is deleted, as if an outer
handle were still to do it. `unlock_yes_iff` : this is the one exception, whatever the other
handles do, and it takes a release that the store never saw. After such a release the key still
holds the token although the handle holds nothing, so its next attempt enters its own hold.
-/

namespace Turnstile.Lock

namespace Client

/-- A move leaves the results, or adds that of the operation it ends. -/
theorem results_move (h : Handle) (now : Nat) (op : Op) (since : Nat) (c : Client) (m : Move) :
    (c.move h now op since m).results = c.results ∨
      ∃ r, (c.move h now op since m).results = (op, r) :: c.results ∧
        (c.move h now op since m).task = .free ∧
        (r = .ok true → m.next = .finish (.ok true)) := by
  unfold move
  split
  · exact .inl rfl
  · next result finishes =>
    obtain ⟨r, settled, yes⟩ | ⟨_, _, settled⟩ :=
      settle_cases h now op since { c with hold := m.hold } result
    · rw [settled]
      exact .inr ⟨r, rfl, rfl, fun ok => by rw [finishes, yes ok]⟩
    · rw [settled]
      exact .inl rfl

/-- A handle that has a reply after an act of its own did nothing. -/
theorem Acted.eq_of_answered {h : Handle} {now : Nat} {c c' : Client} {a : Act}
    (acted : Acted h now c a c') {op : Op} {since : Nat} {stage : Stage} {reply : Reply}
    (answered : c'.task = .answered op since stage (.ok reply)) : c' = c := by
  cases acted with
  | idle => rfl
  | called | resumed | woken => exact absurd answered task_move_ne_answered
  | waited | failed | interrupted => cases answered

/-- An act of its own brings no handle a reply. -/
theorem Acted.answered {h : Handle} {now : Nat} {c c' : Client} {a : Act}
    (acted : Acted h now c a c') {op : Op} {since : Nat} {stage : Stage} {reply : Reply}
    (answered : c'.task = .answered op since stage (.ok reply)) :
    c.task = .answered op since stage (.ok reply) :=
  acted.eq_of_answered answered ▸ answered

end Client

theorem Hold.not_isReentrant_of_isFresh {hold : Hold} (fresh : hold.isFresh = true) :
    hold.isReentrant = false := by
  unfold isFresh at fresh
  simp_all [isReentrant]

/-- An unlock that succeeds at once gives up a reentrant hold. -/
theorem Call.isReentrant_of_finish {call : Call} {hold : Hold}
    (finishes : (call.start hold).next = .finish (.ok true)) :
    call = .unlock ∧ hold.isReentrant = true := by
  revert finishes
  fun_cases Call.start <;> simp_all

/-- An unlock that asked succeeds if the key was deleted. -/
theorem Stage.isYes_of_finish {hold : Hold} {answer : Answer}
    (finishes : (releasing.resume hold answer).next = .finish (.ok true)) :
    ∃ reply, answer = .ok reply ∧ reply.isYes = true := by
  rcases answer with e | reply
  · cases finishes
  · refine ⟨reply, rfl, ?_⟩
    by_contra no
    simp [Stage.resume, no] at finishes

/-- A handle that holds its lock fresh goes on to do so, unless it unlocks. -/
theorem Call.isFresh_start {call : Call} {hold : Hold} (fresh : hold.isFresh = true) :
    (call.start hold).hold.isFresh = true ∨ (call.start hold).next = .ask .releasing := by
  unfold Hold.isFresh at fresh
  fun_cases Call.start <;> simp_all [Hold.isFresh, Hold.isReentrant]

/-- A handle that holds its lock fresh goes on to do so, unless an answer tells otherwise. -/
theorem Stage.isFresh_resume {stage : Stage} {hold : Hold} (answer : Answer)
    (fresh : hold.isFresh = true) (fits : stage.Fits hold) :
    (stage.resume hold answer).hold.isFresh = true ∨
      stage ≠ .acquiring ∧ ∃ reply, answer = .ok reply ∧ reply.isYes = false := by
  unfold Hold.isFresh at fresh
  fun_cases Stage.resume <;> simp_all [Hold.isFresh, Stage.Fits]

namespace Client

/-- A handle holds its lock fresh, took it and has not taken the answer in, or is about to
release it. -/
def Knows (c : Client) : Prop :=
  c.hold.isFresh = true ∨
    (∃ op since reply, c.task = .answered op since .acquiring (.ok reply) ∧ reply.isYes = true) ∨
    ∃ op since, c.task = .asking op since .releasing

theorem Knows.isFresh {c : Client} (knows : c.Knows)
    (quiet : c.task = .free ∨ ∃ limit since wake, c.task = .asleep limit since wake) :
    c.hold.isFresh = true := by
  rcases knows with fresh | ⟨_, _, _, task, -⟩ | ⟨_, _, task⟩
  · exact fresh
  all_goals
    obtain free | ⟨_, _, _, asleep⟩ := quiet
    · cases free.symm.trans task
    · cases asleep.symm.trans task

/-- What a handle does on its own follows what it knows, as long as no answer tells otherwise
and no release is lost. -/
theorem Acted.knows {h : Handle} {now : Nat} {c c' : Client} {a : Act} (acted : Acted h now c a c')
    (knows : c.Knows) (fits : c.task.Fits c.hold)
    (told : ∀ op since stage reply, c.task = .answered op since stage (.ok reply) →
      stage ≠ .acquiring → reply.isYes ≠ false)
    (seen : ∀ reason op since, a = .fail reason → c.task ≠ .asking op since .releasing) :
    c'.Knows := by
  have started {op : Op} {since : Nat} {call : Call} (fresh : c.hold.isFresh = true) :
      (c.move h now op since (call.start c.hold)).Knows := by
    rcases Call.isFresh_start fresh with fresh' | asks
    · exact .inl ((congrArg _ (hold_move ..)).trans fresh')
    · refine .inr (.inr ⟨op, since, ?_⟩)
      simp only [move, asks]
  cases acted with
  | idle => exact knows
  | called free => exact started (knows.isFresh (.inl free))
  | woken asleep => exact started (knows.isFresh (.inr ⟨_, _, _, asleep⟩))
  | waited free => exact .inl (knows.isFresh (.inl free))
  | interrupted asleep => exact .inl (knows.isFresh (.inr ⟨_, _, _, asleep⟩))
  | failed asking =>
    rcases knows with fresh | ⟨_, _, _, task, -⟩ | ⟨_, _, task⟩
    · exact .inl fresh
    · cases asking.symm.trans task
    · exact absurd task (seen _ _ _ rfl)
  | @resumed op since stage answer answered =>
    rcases knows with fresh | ⟨_, _, reply, task, yes⟩ | ⟨_, _, task⟩
    · rw [answered] at fits
      rcases Stage.isFresh_resume answer fresh fits.1 with fresh' | ⟨later, reply, rfl, no⟩
      · exact .inl ((congrArg _ (hold_move ..)).trans fresh')
      · exact absurd no (told op since stage reply answered later)
    · cases answered.symm.trans task
      refine .inl ?_
      rw [hold_move]
      simp [Stage.resume, yes, Hold.isFresh, Hold.fresh]
    · cases answered.symm.trans task

/-- An unlock ends with success by giving up a reentrant hold, or by an answer that the key was
deleted. -/
theorem Acted.unlocked {h : Handle} {now : Nat} {c c' : Client} {a : Act}
    (acted : Acted h now c a c') (fits : c.task.Fits c.hold)
    (ends : c'.results = (.call .unlock, .ok true) :: c.results) :
    (c.task = .free ∧ c.hold.isReentrant = true) ∨
      ∃ op since reply, c.task = .answered op since .releasing (.ok reply) ∧
        reply.isYes = true := by
  have moved {op : Op} {since : Nat} {m : Move}
      (ends : (c.move h now op since m).results = (.call .unlock, .ok true) :: c.results) :
      op = .call .unlock ∧ m.next = .finish (.ok true) := by
    rcases results_move h now op since c m with same | ⟨r, added, -, yes⟩
    · exact absurd (ends.symm.trans same) (List.cons_ne_self _ _)
    · obtain ⟨rfl, rfl⟩ := Prod.mk.inj (List.cons.inj (ends.symm.trans added)).1
      exact ⟨rfl, yes rfl⟩
  cases acted with
  | idle => exact absurd ends.symm (List.cons_ne_self _ _)
  | called free => exact .inl ⟨free, (Call.isReentrant_of_finish (moved ends).2).2⟩
  | waited | failed => exact absurd ends.symm (List.cons_ne_self _ _)
  | woken => cases (moved ends).1
  | interrupted =>
    have same := (Prod.mk.inj (List.cons.inj ends).1).1
    cases same
  | @resumed op since stage answer answered =>
    obtain ⟨rfl, finishes⟩ := moved ends
    rw [answered] at fits
    obtain rfl : stage = .releasing := by
      have call := fits.2
      cases stage <;> first | rfl | cases call
    obtain ⟨reply, rfl, yes⟩ := Stage.isYes_of_finish finishes
    exact .inr ⟨_, _, reply, answered, yes⟩

end Client

namespace Crew

variable {ι : Type} (crew : Crew ι)

/-- The key holds the token of a handle. -/
def InKey (s : System ι) (i : ι) : Prop :=
  ∃ expiry, crew.live s = some ⟨.text (crew.handle i).token.text, expiry⟩

theorem inKey_iff {s : System ι} {i : ι} :
    crew.InKey s i ↔ (crew.live s).any (fun e =>
      match e.value with
      | .text stored => stored == (crew.handle i).token.text
      | _ => false) = true := by
  unfold InKey
  rcases crew.live s with _ | ⟨stored | items | set, expiry⟩ <;> simp

instance (s : System ι) (i : ι) : Decidable (crew.InKey s i) :=
  decidable_of_iff _ (inKey_iff ..).symm

/-- What a handle was told is so : after a release that was answered, and after a refusal other
than to take the key, the key does not hold its token. -/
def Told (s : System ι) (i : ι) : Prop :=
  ∀ op since stage reply, (s.client i).task = .answered op since stage (.ok reply) →
    (stage = .releasing ∨ stage ≠ .acquiring ∧ reply.isYes = false) → ¬crew.InKey s i

/-- A handle whose token is in the key acts on it. -/
def Known (s : System ι) (i : ι) : Prop := crew.InKey s i → (s.client i).Knows

variable [DecidableEq ι]

/-- A release of a handle was not seen by the store in a run. -/
def ReleaseFailed (i : ι) (steps : List (Step ι)) : Prop :=
  ∃ before reason op since, before ++ [.act i (.fail reason)] <+: steps ∧
    ((crew.run before).client i).task = .asking op since .releasing

variable {crew} {s : System ι} {i : ι}

section OwnText

variable (own : ∀ j, (crew.handle j).token.text = (crew.handle i).token.text → j = i)

include own

/-- Only a handle itself brings its token into the key. -/
theorem InKey.of_step {x : Step ι} (after : crew.InKey (crew.step s x) i) :
    crew.InKey s i ∨ ∃ op since stage answer, x = .ask i ∧
      (s.client i).task = .asking op since stage ∧ stage.grants answer = true ∧
      (crew.step s x).client i = (s.client i).answer s.now op since stage answer := by
  obtain ⟨expiry, after⟩ := after
  obtain same | ⟨span, -, passed⟩ | ⟨j, op, since, stage, answer, rfl, asking, answered, outcome⟩ :=
    crew.live_step s x
  · exact .inl ⟨expiry, same.symm.trans after⟩
  · exact .inl ⟨expiry, (Option.filter_eq_some_iff.1 (passed.symm.trans after)).1⟩
  · rw [after] at outcome
    rcases outcome.value_of_live with ⟨grants, value⟩ | ⟨⟨value, t⟩, live, same⟩
    · obtain rfl := own j (Value.text.inj value).symm
      exact .inr ⟨op, since, stage, answer, rfl, asking, grants, answered⟩
    · obtain rfl := same
      exact .inl ⟨t, live⟩

theorem Told.step (told : crew.Told s i) (x : Step ι) : crew.Told (crew.step s x) i := by
  intro op since stage reply answered refused inKey
  obtain same | ⟨a, rfl, acted⟩ | ⟨op', since', stage', answer, rfl, asking, outcome, after⟩ :=
    crew.client_step s x i
  · rw [same] at answered
    rcases inKey.of_step own with before | ⟨_, _, _, _, -, asking, -⟩
    · exact told op since stage reply answered refused before
    · cases answered.symm.trans asking
  · exact told op since stage reply (acted.answered answered) refused inKey
  · rw [after] at answered
    cases answered
    obtain ⟨expiry, live⟩ := inKey
    rw [live] at outcome
    have other := outcome.not_owns_of_no rfl refused
    rw [Stage.owns_text] at other
    cases other

omit own in
theorem ReleaseFailed.append {steps : List (Step ι)} (failed : crew.ReleaseFailed i steps)
    (x : Step ι) : crew.ReleaseFailed i (steps ++ [x]) := by
  obtain ⟨before, reason, op, since, start, asking⟩ := failed
  exact ⟨before, reason, op, since, start.trans (List.prefix_append ..), asking⟩

/-- As long as the store sees its releases, a handle knows whether its token is in the key. -/
theorem Known.step (known : crew.Known s i) (told : crew.Told s i)
    (fits : (s.client i).task.Fits (s.client i).hold) {x : Step ι}
    (seen : ∀ reason op since, x = .act i (.fail reason) →
      (s.client i).task ≠ .asking op since .releasing) :
    crew.Known (crew.step s x) i := by
  intro after
  rcases after.of_step own with before | ⟨op, since, stage, answer, -, asking, grants, client⟩
  · obtain same | ⟨a, rfl, acted⟩ | ⟨op, since, stage, answer, rfl, asking, outcome, client⟩ :=
      crew.client_step s x i
    · rw [same]
      exact known before
    · refine acted.knows (known before) fits ?_ ?_
      · exact fun op since stage reply answered later no =>
          told op since stage reply answered (.inr ⟨later, no⟩) before
      · exact fun reason op since failed => seen reason op since (congrArg _ failed)
    · rw [client]
      rcases known before with fresh | ⟨_, _, _, task, -⟩ | ⟨_, _, task⟩
      · exact .inl fresh
      · cases asking.symm.trans task
      · -- a release that is answered leaves the key without the token
        cases asking.symm.trans task
        obtain ⟨expiry, live⟩ := before
        rw [live] at outcome
        rcases answer with e | reply
        · exact outcome.not_failed.elim
        · have told' := told.step own (.ask i) op since .releasing reply (by rw [client]; rfl)
          exact absurd after (told' (.inl rfl))
  · rw [client]
    rw [asking] at fits
    obtain ⟨reply, rfl, yes⟩ := Stage.isYes_of_grants grants
    rcases stage with (_ | _) | _ | _ | _ | _
    · exact .inl (by simp [Hold.isFresh, fits.1.1, fits.1.2, Client.answer])
    · cases grants
    · exact .inl fits.1
    · exact .inr (.inl ⟨op, since, reply, rfl, yes⟩)
    · cases grants
    · cases grants

theorem told_run_of_own (steps : List (Step ι)) : crew.Told (crew.run steps) i := by
  refine crew.run_induction (P := fun s => crew.Told s i) ?_ ?_ steps
  case refine_2 => exact fun s x told => told.step own x
  intro op since stage reply answered
  cases answered

/-- In a run in which the store sees every release of a handle, the handle knows whether its
token is in the key, if no other handle has this token. -/
theorem known_run_of_own (steps : List (Step ι)) :
    ¬crew.ReleaseFailed i steps → crew.Known (crew.run steps) i := by
  induction steps using List.reverseRecOn with
  | nil =>
    rintro - ⟨expiry, held⟩
    simp [run, live, Keyspace.live?] at held
  | append_singleton steps x ih =>
    intro seen
    rw [run_append]
    have before := ih fun failed => seen (failed.append x)
    refine before.step own (told_run_of_own own steps) (crew.fits_run steps i) ?_
    rintro reason op since rfl asking
    exact seen ⟨steps, reason, op, since, List.prefix_refl _, asking⟩

end OwnText

section Tokens

variable (tokens : Function.Injective fun i => (crew.handle i).token)

include tokens

theorem told_run (steps : List (Step ι)) : crew.Told (crew.run steps) i :=
  told_run_of_own (fun _ => crew.eq_of_text_eq tokens) steps

/-- So it is if all handles have tokens of their own. -/
theorem known_run (steps : List (Step ι)) :
    ¬crew.ReleaseFailed i steps → crew.Known (crew.run steps) i :=
  known_run_of_own (fun _ => crew.eq_of_text_eq tokens) steps

end Tokens

end Crew

/-- What an unlock that succeeds leaves behind. In every run of handles with tokens of their
own, whose questions may be lost : when an unlock of a handle ends with success, the key no
longer holds the token of the handle, unless the unlock gave up a reentrant hold while the key
held that very token. This takes that the store did not see an earlier release of the handle. -/
theorem unlock_yes_iff {ι : Type} [DecidableEq ι] (crew : Crew ι)
    (tokens : Function.Injective fun i => (crew.handle i).token) (steps : List (Step ι))
    (x : Step ι) (i : ι) :
    let s := crew.run steps
    let s' := crew.step s x
    (s'.client i).results = (.call .unlock, .ok true) :: (s.client i).results →
      (¬crew.InKey s' i ↔ ¬((s.client i).hold.isReentrant = true ∧ crew.InKey s i)) ∧
        (crew.InKey s' i → crew.ReleaseFailed i steps) := by
  intro s s' ends
  have fits := crew.fits_run steps i
  obtain same | ⟨a, rfl, acted⟩ | ⟨_, _, _, _, rfl, _, _, client⟩ := crew.client_step s x i
  · exact absurd (ends.symm.trans (congrArg _ same)) (List.cons_ne_self _ _)
  · -- an act of its own leaves the key as it was
    have key : crew.InKey s' i ↔ crew.InKey s i := Iff.rfl
    rw [key]
    rcases acted.unlocked fits ends with ⟨free, reentrant⟩ | ⟨op, since, reply, answered, -⟩
    · refine ⟨by simp [reentrant], fun inKey => ?_⟩
      by_contra seen
      have fresh := (Crew.known_run tokens steps seen inKey).isFresh (.inl free)
      have nested : (s.client i).hold.isReentrant = false := Hold.not_isReentrant_of_isFresh fresh
      rw [nested] at reentrant
      cases reentrant
    · have gone := Crew.told_run tokens steps op since .releasing reply answered (.inl rfl)
      exact ⟨by simp [show ¬crew.InKey s i from gone], fun inKey => absurd inKey gone⟩
  · exact absurd (ends.symm.trans (congrArg _ client)) (List.cons_ne_self _ _)

/-- A handle takes the lock, loses the release of its unlock and attempts the lock again. -/
def lostRelease : List (Step Bool) :=
  [.act false (.begin (.call .tryLock)), .ask false, .act false .resume,
    .act false (.begin (.call .unlock)), .act false (.fail "down"), .act false .resume,
    .act false (.begin (.call .tryLock)), .ask false, .act false .resume, .ask false,
    .act false .resume]

theorem unlock_lostRelease :
    let s := Crew.twoThreads.run lostRelease
    let s' := Crew.twoThreads.step s (.act false (.begin (.call .unlock)))
    (s'.client false).results = (.call .unlock, .ok true) :: (s.client false).results ∧
      Crew.twoThreads.InKey s' false :=
  ⟨by rfl, by decide⟩

theorem unlock_yes_iff_lostRelease :
    (Crew.twoThreads.run lostRelease |>.client false).hold.isReentrant = true ∧
      Crew.twoThreads.ReleaseFailed false lostRelease := by
  have tokens : Function.Injective fun i => (Crew.twoThreads.handle i).token := by
    unfold Function.Injective
    decide
  have unlocked := unlock_yes_iff Crew.twoThreads tokens lostRelease
    (.act false (.begin (.call .unlock))) false (by rfl)
  exact ⟨by decide, unlocked.2 (by decide)⟩

end Turnstile.Lock
