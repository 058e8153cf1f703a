import Turnstile.Proofs.Lock.Among
import Turnstile.Proofs.Lock.Unlock

/-!
# The tenure of a lock

A handle that holds its lock fresh has put its token into the key, for one lease. Handles of
other hosts and threads can ask about the key what they like : as long as the lease runs, none of
their questions is about that token, so none of them touches the key (`Crew.LeasedFrom.step`).
The handle itself, if it does not unlock, puts the end of the lease off and nothing else.

`Crew.Retains` is what such a handle retains in every run (`Crew.Retains.run`) : as long as the
last lease that it was given runs, it knows that its token is in the key, and the token is there
up to the end of that lease. `Crew.Keeps` is the same for a handle that does nothing but renew,
which holds its lock fresh all the time (`Crew.Keeps.run`).
-/

namespace Turnstile.Lock

namespace Crew

variable {ι : Type} [DecidableEq ι] (crew : Crew ι)

/-! ## Other owners leave the key alone -/

/-- The key holds the token of a handle, up to one lease after some point of time. -/
def LeasedFrom (s : System ι) (i : ι) (t : Nat) : Prop :=
  crew.live s = some ⟨.text (crew.handle i).token.text, some (t + (crew.handle i).span)⟩

/-- A step that is not one of another handle of the same host and thread. -/
def Apart (i : ι) (x : Step ι) : Prop := ∀ j, x.isOf j = true → j = i ∨ crew.Foreign i j

instance [Fintype ι] (i : ι) (x : Step ι) : Decidable (crew.Apart i x) :=
  inferInstanceAs (Decidable (∀ _, _ → _))

variable {crew} {s : System ι} {i : ι} {t : Nat}

/-- A step of others leaves the key as long as the lease runs. -/
theorem LeasedFrom.step (hosts : ∀ i, ':' ∉ (crew.handle i).token.host.toList)
    (leased : crew.LeasedFrom s i t) {x : Step ι} (apart : crew.Apart i x)
    (other : x.isOf i = false) (early : (crew.step s x).now < t + (crew.handle i).span) :
    crew.LeasedFrom (crew.step s x) i t := by
  unfold LeasedFrom at leased ⊢
  obtain same | ⟨span, rfl, passed⟩ | ⟨j, op, since, stage, answer, rfl, -, -, outcome⟩ :=
    crew.live_step s x
  · exact same.trans leased
  · have unexpired : ¬t + (crew.handle i).span ≤ s.now + span := Nat.not_le_of_lt early
    rw [passed, leased]
    simp [Entry.isExpired, unexpired]
  · have ne : j ≠ i := by simpa [Step.isOf] using other
    have foreign : crew.Foreign i j := (apart j (by simp [Step.isOf])).resolve_left ne
    rw [leased] at outcome
    refine outcome.unchanged ?_
    by_contra owns
    have same := Stage.sameOwner_of_owns (Bool.not_eq_false _ |>.mp owns)
    rw [foreign.symm.sameOwner hosts] at same
    cases same

end Crew

/-! ## A handle that does not unlock, step by step -/

/-- A handle is not at the question of an unlock. -/
def Task.Lasts : Task → Prop
  | asking op .. => op ≠ .call .unlock
  | answered op .. => op ≠ .call .unlock
  | _ => True

/-- A handle does nothing or is at the questions of a renewal. -/
def Task.Renews : Task → Prop
  | free => True
  | asking op .. => op = .call .renew
  | answered op .. => op = .call .renew
  | asleep .. => False

/-- A step in which a handle begins nothing but renewals. -/
def Step.OnlyRenews {ι : Type} (i : ι) (x : Step ι) : Prop :=
  ∀ op, x = .act i (.begin op) → op = .call .renew

theorem Hold.nested_of_isFresh {hold : Hold} (fresh : hold.isFresh = true) :
    hold.nested = false := by
  simpa using (Bool.and_eq_true_iff.1 fresh).2

/-- A handle that holds its lock fresh asks for a new lease of its token. -/
theorem Stage.Fits.renewal {stage : Stage} {hold : Hold} (fits : stage.Fits hold)
    (fresh : hold.isFresh = true) : stage = renewing false ∨ stage = extending := by
  cases stage with
  | renewing byOwner =>
    obtain rfl := fits.2.symm.trans (Hold.nested_of_isFresh fresh)
    exact .inl rfl
  | extending => exact .inr rfl
  | acquiring | reentering => cases fits.symm.trans fresh
  | releasing =>
    obtain rfl := fits
    cases fresh

/-- A handle that is given a lease has succeeded and holds its lock fresh. -/
theorem Stage.resume_of_grants {stage : Stage} {hold : Hold} {answer : Answer}
    (fits : stage.Fits hold) (grants : stage.grants answer = true) :
    (stage.resume hold answer).next = .finish (.ok true) ∧
      (stage.resume hold answer).hold.isFresh = true := by
  obtain ⟨reply, rfl, yes⟩ := isYes_of_grants grants
  unfold Stage.Fits at fits
  rcases stage with (_ | _) | _ | _ | _ | _
  · simp_all [Stage.resume, Hold.isFresh]
  · cases grants
  · simp_all [Stage.resume]
  · simp_all [Stage.resume, Hold.isFresh, Hold.fresh]
  · cases grants
  · cases grants

namespace Client

variable {h : Handle} {now : Nat} {c c' : Client} {a : Act}

/-- A call does not sleep. -/
theorem task_move_call (h : Handle) (now : Nat) (call : Call) (since : Nat) (c : Client)
    (m : Move) :
    (∃ stage, (c.move h now (.call call) since m).task = .asking (.call call) since stage) ∨
      (c.move h now (.call call) since m).task = .free := by
  unfold move
  split
  · exact .inl ⟨_, rfl⟩
  · unfold settle
    split <;> exact .inr rfl

/-- A handle that begins no unlock is at none. -/
theorem Acted.lasts (acted : Acted h now c a c') (stays : a ≠ .begin (.call .unlock))
    (lasts : c.task.Lasts) : c'.task.Lasts := by
  have moved {op : Op} {since : Nat} {m : Move} (other : op ≠ .call .unlock) :
      (c.move h now op since m).task.Lasts := by
    obtain ⟨stage, -, task⟩ | task | ⟨_, _, task⟩ := task_move h now op since c m
    · rw [task]
      exact other
    all_goals
      rw [task]
      trivial
  cases acted with
  | idle => exact lasts
  | @called call => exact moved fun same => stays (congrArg Act.begin same)
  | waited | interrupted => trivial
  | failed asking =>
    rw [asking] at lasts
    exact lasts
  | resumed answered =>
    rw [answered] at lasts
    exact moved lasts
  | woken => exact moved (by simp)

/-- A handle that begins nothing but renewals is at nothing else. -/
theorem Acted.renews (acted : Acted h now c a c')
    (only : ∀ op, a = .begin op → op = .call .renew) (renews : c.task.Renews) :
    c'.task.Renews := by
  have moved {op : Op} {since : Nat} {m : Move} (renewal : op = .call .renew) :
      (c.move h now op since m).task.Renews := by
    subst renewal
    rcases task_move_call h now .renew since c m with ⟨stage, task⟩ | task
    · rw [task]
      rfl
    · rw [task]
      trivial
  cases acted with
  | idle => exact renews
  | called => exact moved (only _ rfl)
  | waited => cases only _ rfl
  | failed asking =>
    rw [asking] at renews
    exact renews
  | resumed answered =>
    rw [answered] at renews
    exact moved renews
  | woken asleep | interrupted asleep =>
    rw [asleep] at renews
    exact renews.elim

/-- A handle that knows of its token and asks for anything but its release asks for a new lease
of the token. -/
theorem Knows.renewal (knows : c.Knows) (fits : c.task.Fits c.hold) (lasts : c.task.Lasts)
    {op : Op} {since : Nat} {stage : Stage} (asking : c.task = .asking op since stage) :
    c.hold.isFresh = true ∧ (stage = .renewing false ∨ stage = .extending) := by
  rw [asking] at fits lasts
  rcases knows with fresh | ⟨_, _, _, task, -⟩ | ⟨_, _, task⟩
  · exact ⟨fresh, fits.1.renewal fresh⟩
  · cases asking.symm.trans task
  · cases asking.symm.trans task
    cases op with
    | call call =>
      obtain rfl : .unlock = call := fits.2
      exact absurd rfl lasts
    | wait => cases fits.2

/-- A handle that is at nothing but renewals and knows of its token holds its lock fresh. -/
theorem Knows.isFresh_of_renews (knows : c.Knows) (fits : c.task.Fits c.hold)
    (renews : c.task.Renews) : c.hold.isFresh = true := by
  rcases knows with fresh | ⟨op, since, reply, task, -⟩ | ⟨op, since, task⟩
  · exact fresh
  all_goals
    rw [task] at fits renews
    obtain rfl : op = .call .renew := renews
    cases fits.2

end Client

namespace Crew

variable {ι : Type} [DecidableEq ι] (crew : Crew ι)

/-- A handle that has nothing to do holds its lock fresh, and the key is as the store left it
when it last gave the handle's token a lease. -/
structure Holds (s : System ι) (i : ι) (t : Nat) : Prop where
  free : (s.client i).task = .free
  fresh : (s.client i).hold.isFresh = true
  granted : (s.client i).granted = some t
  leased : crew.LeasedFrom s i t

/-- A handle that does not unlock was last given a lease at some time, and retains the lock as
long as this lease runs. -/
structure Retains (s : System ι) (i : ι) (t : Nat) : Prop where
  granted : (s.client i).granted = some t
  lasts : (s.client i).task.Lasts
  knows : s.now < t + (crew.handle i).span → (s.client i).Knows
  leased : s.now < t + (crew.handle i).span → crew.LeasedFrom s i t
  told : s.now < t + (crew.handle i).span → ∀ op since stage reply,
    (s.client i).task = .answered op since stage (.ok reply) → reply.isYes = true

/-- A handle that renews retains the lock, and holds it fresh. -/
structure Keeps (s : System ι) (i : ι) (t : Nat) : Prop extends crew.Retains s i t where
  renews : (s.client i).task.Renews
  fresh : s.now < t + (crew.handle i).span → (s.client i).hold.isFresh = true

variable {crew} {s : System ι} {i : ι} {t : Nat}

omit [DecidableEq ι] in
theorem Holds.retains (holds : crew.Holds s i t) : crew.Retains s i t where
  granted := holds.granted
  lasts := by
    rw [holds.free]
    trivial
  knows _ := .inl holds.fresh
  leased _ := holds.leased
  told _ op since stage reply answered := by
    cases holds.free.symm.trans answered

omit [DecidableEq ι] in
theorem Holds.keeps (holds : crew.Holds s i t) : crew.Keeps s i t where
  toRetains := holds.retains
  renews := by
    rw [holds.free]
    trivial
  fresh _ := holds.fresh

/-- A handle whose attempt or renewal is given a lease holds its lock from then on. -/
theorem holds_of_grants {op : Op} {since : Nat} {stage : Stage} {answer : Answer}
    (fits : (s.client i).task.Fits (s.client i).hold)
    (asking : (s.client i).task = .asking op since stage)
    (answered : ((crew.step s (.ask i)).client i).task = .answered op since stage answer)
    (grants : stage.grants answer = true) :
    crew.Holds (crew.step (crew.step s (.ask i)) (.act i .resume)) i s.now := by
  obtain ⟨answer', outcome, client⟩ := crew.step_ask s asking
  rw [asking] at fits
  rw [client, Function.update_self] at answered
  cases answered
  obtain ⟨finishes, fresh⟩ := Stage.resume_of_grants fits.1 grants
  have resumed : (crew.step (crew.step s (.ask i)) (.act i .resume)).client i =
      ((s.client i).answer s.now op since stage answer).move (crew.handle i)
        (crew.step s (.ask i)).now op since (stage.resume (s.client i).hold answer) := by
    rw [client_act, client, Function.update_self]
    rfl
  refine ⟨?_, ?_, ?_, outcome.granted grants⟩
  · rw [resumed]
    simp only [Client.move, finishes]
    rfl
  · rw [resumed, Client.hold_move]
    exact fresh
  · rw [resumed, Client.granted_move]
    exact if_pos grants

/-- A handle whose question is answered with a lease retains the lock from then on. -/
theorem retains_of_grants (fits : (s.client i).task.Fits (s.client i).hold) {op : Op}
    {since : Nat} {stage : Stage} {answer : Answer}
    (asking : (s.client i).task = .asking op since stage)
    (outcome : Stage.Outcome (crew.handle i) s.now (crew.live s) stage answer
      (crew.live (crew.step s (.ask i))))
    (client : (crew.step s (.ask i)).client i = (s.client i).answer s.now op since stage answer)
    (grants : stage.grants answer = true) : crew.Retains (crew.step s (.ask i)) i s.now := by
  rw [asking] at fits
  obtain ⟨reply, rfl, yes⟩ := Stage.isYes_of_grants grants
  have releases : stage ≠ .releasing := by
    rintro rfl
    cases grants
  refine ⟨?granted, ?lasts, fun _ => ?knows, fun _ => outcome.granted grants, fun _ => ?told⟩
  case granted =>
    rw [client]
    exact if_pos grants
  case lasts =>
    rw [client]
    rintro rfl
    have call : stage.call = .unlock := fits.2
    cases stage <;> first | exact releases rfl | cases call
  case knows =>
    rw [client]
    rcases stage with (_ | _) | _ | _ | _ | _
    · exact .inl (by simp [Hold.isFresh, fits.1.1, fits.1.2, Client.answer])
    · cases grants
    · exact .inl fits.1
    · exact .inr (.inl ⟨op, since, reply, rfl, yes⟩)
    · cases grants
    · cases grants
  case told =>
    intro op' since' stage' reply' answered
    rw [client] at answered
    cases answered
    exact yes

namespace Retains

variable (hosts : ∀ i, ':' ∉ (crew.handle i).token.host.toList)

include hosts in
/-- A step of others leaves a handle its lock. -/
theorem step_other (retains : crew.Retains s i t) {x : Step ι} (apart : crew.Apart i x)
    (other : x.isOf i = false) : crew.Retains (crew.step s x) i t := by
  have client : (crew.step s x).client i = s.client i := client_step_of_other other
  have before (early : (crew.step s x).now < t + (crew.handle i).span) :
      s.now < t + (crew.handle i).span :=
    Nat.lt_of_le_of_lt (crew.now_le_step s x) early
  refine ⟨?_, ?_, fun early => ?_, fun early => ?_, fun early => ?_⟩
  · rw [client]
    exact retains.granted
  · rw [client]
    exact retains.lasts
  · rw [client]
    exact retains.knows (before early)
  · exact (retains.leased (before early)).step hosts apart other early
  · rw [client]
    exact retains.told (before early)

/-- What a handle does on its own leaves it the lock, if it begins no unlock. -/
theorem step_act (retains : crew.Retains s i t)
    (fits : (s.client i).task.Fits (s.client i).hold) {a : Act}
    (stays : a ≠ .begin (.call .unlock)) : crew.Retains (crew.step s (.act i a)) i t := by
  have acted : (s.client i).Acted (crew.handle i) s.now a
      ((crew.step s (.act i a)).client i) := by
    rw [client_act]
    exact (s.client i).acted (crew.handle i) s.now a
  refine ⟨acted.granted.trans retains.granted, acted.lasts stays retains.lasts,
    fun early => ?_, retains.leased, fun early => ?_⟩
  · refine acted.knows (retains.knows early) fits ?_ ?_
    · intro op since stage reply answered _ no
      cases (retains.told early op since stage reply answered).symm.trans no
    · intro reason op since _ asking
      obtain ⟨-, same | same⟩ := (retains.knows early).renewal fits retains.lasts asking <;>
        cases same
  · intro op since stage reply answered
    exact retains.told early op since stage reply (acted.answered answered)

/-- A question of a handle that does not unlock gives it a new lease, or fails, as long as the
last lease runs. -/
theorem step_ask (retains : crew.Retains s i t)
    (fits : (s.client i).task.Fits (s.client i).hold) :
    ∃ t', crew.Retains (crew.step s (.ask i)) i t' := by
  by_cases asks : ∃ op since stage, (s.client i).task = .asking op since stage
  · obtain ⟨op, since, stage, asking⟩ := asks
    obtain ⟨answer, outcome, client⟩ := crew.step_ask s asking
    replace client : (crew.step s (.ask i)).client i =
        (s.client i).answer s.now op since stage answer := by
      rw [client, Function.update_self]
    by_cases grants : stage.grants answer = true
    · exact ⟨s.now, retains_of_grants fits asking outcome client grants⟩
    · -- the token is in the key, so that the lease was not given is due to an error
      have failed (early : (crew.step s (.ask i)).now < t + (crew.handle i).span) :
          (s.client i).hold.isFresh = true ∧ (∃ e, answer = .error e) ∧
            crew.LeasedFrom (crew.step s (.ask i)) i t := by
        rw [crew.now_ask s i] at early
        obtain ⟨fresh, renewal⟩ := (retains.knows early).renewal fits retains.lasts asking
        rw [retains.leased early] at outcome
        exact ⟨fresh, outcome.failed_of_own renewal (Bool.eq_false_iff.2 grants)⟩
      refine ⟨t, ?_, ?_, fun early => ?_, fun early => (failed early).2.2, fun early => ?_⟩
      · rw [client]
        exact (if_neg grants).trans retains.granted
      · have lasts := retains.lasts
        rw [asking] at lasts
        rw [client]
        exact lasts
      · rw [client]
        exact .inl (failed early).1
      · obtain ⟨e, rfl⟩ := (failed early).2.1
        intro op' since' stage' reply' answered
        rw [client] at answered
        cases answered
  · rw [crew.step_ask_of_not s fun op since stage asking => asks ⟨op, since, stage, asking⟩]
    exact ⟨t, retains⟩

include hosts in
/-- A handle that begins no unlock retains its lock in every step, if other owners make the
others. -/
theorem step (retains : crew.Retains s i t) (fits : (s.client i).task.Fits (s.client i).hold)
    {x : Step ι} (apart : crew.Apart i x) (stays : x ≠ .act i (.begin (.call .unlock))) :
    ∃ t', crew.Retains (crew.step s x) i t' := by
  by_cases own : x.isOf i = true
  · cases x with
    | act j a =>
      obtain rfl : j = i := by simpa [Step.isOf] using own
      exact ⟨t, retains.step_act fits fun begins => stays (congrArg _ begins)⟩
    | ask j =>
      obtain rfl : j = i := by simpa [Step.isOf] using own
      exact retains.step_ask fits
    | pass | other => cases own
  · exact ⟨t, retains.step_other hosts apart (Bool.eq_false_iff.2 own)⟩

include hosts in
/-- So it does in every run. -/
theorem run {steps : List (Step ι)} (retains : crew.Retains (crew.run steps) i t)
    {more : List (Step ι)}
    (apart : ∀ x ∈ more, crew.Apart i x ∧ x ≠ .act i (.begin (.call .unlock))) :
    ∃ t', crew.Retains (crew.run (steps ++ more)) i t' := by
  induction more using List.reverseRecOn with
  | nil =>
    rw [List.append_nil]
    exact ⟨t, retains⟩
  | append_singleton more x ih =>
    obtain ⟨t', retains'⟩ := ih fun y mem => apart y (List.mem_append_left _ mem)
    obtain ⟨apart, stays⟩ := apart x (List.mem_append_right _ List.mem_cons_self)
    rw [← List.append_assoc, run_append]
    exact retains'.step hosts (crew.fits_run _ i) apart stays

end Retains

/-- A handle that begins nothing but renewals is at nothing else in every run. -/
theorem renews_run {steps more : List (Step ι)} (only : ∀ x ∈ more, x.OnlyRenews i)
    (renews : ((crew.run steps).client i).task.Renews) :
    ((crew.run (steps ++ more)).client i).task.Renews := by
  induction more using List.reverseRecOn with
  | nil =>
    rw [List.append_nil]
    exact renews
  | append_singleton more x ih =>
    have before := ih fun y mem => only y (List.mem_append_left _ mem)
    have last : x.OnlyRenews i := only x (List.mem_append_right _ List.mem_cons_self)
    rw [← List.append_assoc, run_append]
    obtain same | ⟨a, rfl, acted⟩ | ⟨_, _, _, _, -, asking, -, answered⟩ :=
      crew.client_step (crew.run (steps ++ more)) x i
    · rwa [same]
    · exact acted.renews (fun op begins => last op (congrArg _ begins)) before
    · rw [asking] at before
      rw [answered]
      exact before

/-- A handle that only renews keeps its lock in every run, if other owners make the other
steps. -/
theorem Keeps.run (hosts : ∀ i, ':' ∉ (crew.handle i).token.host.toList)
    {steps : List (Step ι)} (keeps : crew.Keeps (crew.run steps) i t) {more : List (Step ι)}
    (apart : ∀ x ∈ more, crew.Apart i x ∧ x.OnlyRenews i) :
    ∃ t', crew.Keeps (crew.run (steps ++ more)) i t' := by
  have stays : ∀ x ∈ more, x ≠ .act i (.begin (.call .unlock)) := by
    rintro x mem rfl
    cases (apart _ mem).2 _ rfl
  obtain ⟨t', retains⟩ :=
    keeps.toRetains.run hosts fun x mem => ⟨(apart x mem).1, stays x mem⟩
  have renews := renews_run (fun x mem => (apart x mem).2) keeps.renews
  exact ⟨t', retains, renews, fun early =>
    (retains.knows early).isFresh_of_renews (crew.fits_run _ i) renews⟩

end Crew

end Turnstile.Lock
