import Turnstile.Proofs.Lock.Expiry
import Turnstile.Proofs.Lock.Renewal

/-!
# Nested holds

A thread that holds its lock through one handle can attempt it through others. They enter the
hold of the first, the outer one, and whatever is done with them, the lock stays the outer
handle's : the key goes on to hold its token, and it goes on to hold its lock fresh
(`Crew.Leads.step`). So an attempt of another handle of the thread is refused where it asks for
its own token or for a free key, and succeeds where it asks for the owner
(`Stage.Outcome.answer_eq`).

`outer_kept` : as long as the lease of the key does not lapse and the outer handle does not unlock,
it keeps its lock; meanwhile every attempt of another handle of its thread succeeds with a
reentrant hold; and the first unlock of the outer handle succeeds and deletes the key. All other
handles act in between as they like, question by question.
-/

namespace Turnstile.Lock

/-! ## Answers where a token is in the key -/

/-- Whether a question is answered yes where a token is in the key. -/
def Stage.succeeds (h : Handle) (stored : String) (stage : Stage) : Bool :=
  decide (stage ≠ .acquiring) && stage.owns h stored

/-- Where a token is live, the answer tells whether the question is about this token, if the lease
fits 64 bits. -/
theorem Stage.Outcome.answer_eq {h : Handle} {now : Nat} {live' : Option Entry} {stage : Stage}
    {answer : Answer} {stored : String} {t : Option Nat}
    (o : Outcome h now (some ⟨.text stored, t⟩) stage answer live')
    (fits : stage ≠ releasing → h.leaseMillis ≤ 9223372036854775807) :
    answer = .ok (.ofBool (stage.succeeds h stored)) := by
  unfold succeeds
  cases o with
  | occupied => rfl
  | extended later _ owns => simp [later, owns]
  | released => rw [owns_text]; rfl
  | foreign _ other => rw [other, Bool.and_false]
  | failed cause =>
    rcases cause with ⟨entry, same, text⟩ | ⟨lasting, large⟩
    · obtain rfl := Option.some.inj same
      exact absurd rfl (text _)
    · exact absurd (fits lasting) (Nat.not_le_of_lt large)

/-- A move of an attempt on a lock that another handle of the thread holds asks on, or ends the
attempt with a reentrant hold. -/
theorem Stage.resume_of_nested {h : Handle} {stored : String} {stage : Stage} (hold : Hold)
    (attempt : stage.call = .tryLock) (other : stored ≠ h.token.text)
    (owned : h.token.sameOwner stored = true) :
    let m := stage.resume hold (.ok (.ofBool (stage.succeeds h stored)))
    (∃ next, m.next = .ask next ∧ next.call = .tryLock) ∨
      m.next = .finish (.ok true) ∧ m.hold = .reentrant := by
  have differs : (stored == h.token.text) = false := by simpa using other
  cases stage with
  | renewing | releasing => cases attempt
  | extending => exact .inl ⟨.acquiring, by simp [succeeds, owns, differs, resume], rfl⟩
  | acquiring => exact .inl ⟨.reentering, by simp [succeeds, resume], rfl⟩
  | reentering => exact .inr (by simp [succeeds, owns, owned, resume])

/-! ## The steps of one handle among those of others -/

/-- So many questions of a handle, with their answers taken in. -/
def Step.questions {ι : Type} (i : ι) (count : Nat) : List (Step ι) :=
  (List.replicate count [.ask i, .act i .resume]).flatten

namespace Crew

variable {ι : Type} [DecidableEq ι] (crew : Crew ι)

/-- In no step of a run from some state does the lease of the key run out. -/
def NeverLapses (s : System ι) : List (Step ι) → Prop
  | [] => True
  | x :: steps =>
    (∀ t ∈ crew.expiry? s, (crew.step s x).now < t) ∧ NeverLapses (crew.step s x) steps

instance decidableNeverLapses (steps : List (Step ι)) (s : System ι) :
    Decidable (crew.NeverLapses s steps) :=
  match steps with
  | [] => inferInstanceAs (Decidable True)
  | x :: steps =>
    have := decidableNeverLapses steps (crew.step s x)
    inferInstanceAs (Decidable (_ ∧ _))

variable {crew} {s : System ι} {i j : ι} {x : Step ι}

theorem NeverLapses.append {steps more : List (Step ι)}
    (lasts : crew.NeverLapses s (steps ++ more)) :
    crew.NeverLapses s steps ∧ crew.NeverLapses (steps.foldl crew.step s) more := by
  induction steps generalizing s with
  | nil => exact ⟨trivial, lasts⟩
  | cons x steps ih =>
    obtain ⟨before, after⟩ := ih lasts.2
    exact ⟨⟨lasts.1, before⟩, after⟩

/-- Steps of which none is one of a handle leave the handle. -/
theorem client_foldl_of_others {steps : List (Step ι)} (others : steps.filter (Step.isOf j) = []) :
    (steps.foldl crew.step s).client j = s.client j := by
  induction steps generalizing s with
  | nil => rfl
  | cons x steps ih =>
    have none := List.filter_eq_nil_iff.1 others
    have other : x.isOf j = false := Bool.eq_false_iff.2 (none x List.mem_cons_self)
    rw [List.foldl_cons, ih, client_step_of_other other]
    exact List.filter_eq_nil_iff.2 fun y mem => none y (List.mem_cons_of_mem x mem)

/-! ## The outer handle -/

/-- The key holds a token for some time. -/
def Stores (crew : Crew ι) (s : System ι) (stored : String) : Prop :=
  ∃ expiry, crew.live s = some ⟨.text stored, some expiry⟩

/-- A handle holds its lock fresh, its token is in the key, and no answer that it has yet to take in
tells otherwise. -/
structure Leads (crew : Crew ι) (s : System ι) (i : ι) : Prop where
  fits : (s.client i).task.Fits (s.client i).hold
  fresh : (s.client i).hold.isFresh = true
  told : ∀ op since stage reply,
    (s.client i).task = .answered op since stage (.ok reply) → reply.isYes = true
  stores : crew.Stores s (crew.handle i).token.text

/-- A token stays in the key until its lease lapses or its own handle has the key deleted. -/
theorem Stores.step (tokens : Function.Injective fun i => (crew.handle i).token)
    (stores : crew.Stores s (crew.handle i).token.text)
    (lasts : ∀ t ∈ crew.expiry? s, (crew.step s x).now < t)
    (held : ∀ op since, x = .ask i → (s.client i).task ≠ .asking op since .releasing) :
    crew.Stores (crew.step s x) (crew.handle i).token.text := by
  obtain ⟨expiry, live⟩ := stores
  obtain same | ⟨span, rfl, passed⟩ | ⟨j, op, since, stage, answer, rfl, asking, -, outcome⟩ :=
    crew.live_step s x
  · exact ⟨expiry, same.trans live⟩
  · have unexpired : ¬expiry ≤ s.now + span := by
      have early : s.now + span < expiry := lasts expiry (by rw [expiry?, live]; rfl)
      omega
    refine ⟨expiry, ?_⟩
    rw [passed, live]
    simp [Entry.isExpired, unexpired]
  · rw [live] at outcome
    have others : stage = .releasing → (crew.handle i).token.text ≠ (crew.handle j).token.text := by
      rintro rfl same
      obtain rfl := crew.eq_of_text_eq tokens same
      exact held op since rfl asking
    obtain ⟨expiry', kept, -⟩ := outcome.kept others
    exact ⟨expiry', kept⟩

end Crew

/-- A handle that holds its lock fresh goes on to do so, unless it begins to unlock or an answer
tells otherwise. -/
theorem Client.Acted.isFresh {h : Handle} {now : Nat} {c c' : Client} {a : Act}
    (acted : Acted h now c a c') (fresh : c.hold.isFresh = true) (fits : c.task.Fits c.hold)
    (told : ∀ op since stage reply, c.task = .answered op since stage (.ok reply) →
      reply.isYes = true)
    (stays : a ≠ .begin (.call .unlock)) : c'.hold.isFresh = true := by
  have started {call : Call} (lasting : call ≠ .unlock) :
      (call.start c.hold).hold.isFresh = true :=
    (Call.isFresh_start fresh).resolve_right (Call.start_lasts lasting c.hold).1
  cases acted with
  | idle | waited | failed | interrupted => exact fresh
  | called =>
    rw [hold_move]
    exact started fun unlocks => stays (by rw [unlocks])
  | woken =>
    rw [hold_move]
    exact started (by simp)
  | @resumed op since stage answer answered =>
    rw [hold_move]
    rw [answered] at fits
    rcases Stage.isFresh_resume answer fresh fits.1 with fresh' | ⟨-, reply, rfl, no⟩
    · exact fresh'
    · rw [told op since stage reply answered] at no
      cases no

namespace Crew

variable {ι : Type} [DecidableEq ι] {crew : Crew ι} {s : System ι} {i j : ι} {x : Step ι}
  (tokens : Function.Injective fun i => (crew.handle i).token)

omit [DecidableEq ι] in
/-- A handle that leads is at no question of an unlock. -/
theorem Leads.not_releasing (leads : crew.Leads s i) (op : Op) (since : Nat) :
    (s.client i).task ≠ .asking op since .releasing := by
  intro asking
  have fits := leads.fits
  have fresh := leads.fresh
  rw [asking] at fits
  rw [fits.1] at fresh
  cases fresh

include tokens

/-- A step in which it does not begin to unlock and the lease does not lapse leaves the outer
handle its lock. -/
theorem Leads.step (leads : crew.Leads s i)
    (lasts : ∀ t ∈ crew.expiry? s, (crew.step s x).now < t)
    (stays : x ≠ .act i (.begin (.call .unlock))) : crew.Leads (crew.step s x) i := by
  have fits := crew.fits_step s x leads.fits
  have stores := leads.stores.step tokens lasts fun op since _ => leads.not_releasing op since
  obtain same | ⟨a, rfl, acted⟩ | ⟨op, since, stage, answer, rfl, asking, outcome, after⟩ :=
    crew.client_step s x i
  · exact ⟨fits, by rw [same]; exact leads.fresh, by rw [same]; exact leads.told, stores⟩
  · refine ⟨fits, acted.isFresh leads.fresh leads.fits leads.told ?_, ?_, stores⟩
    · exact fun unlocks => stays (by rw [unlocks])
    · exact fun op since stage reply answered =>
        leads.told op since stage reply (acted.answered answered)
  · refine ⟨fits, by rw [after]; exact leads.fresh, ?_, stores⟩
    -- a fresh hold asks for its own token only, which is in the key
    intro op' since' stage' reply answered
    rw [after] at answered
    cases answered
    by_contra no
    obtain ⟨expiry, live⟩ := leads.stores
    have first : stage ≠ .acquiring := by
      rintro rfl
      have stale := leads.fits
      rw [asking] at stale
      cases leads.fresh.symm.trans stale.1
    rw [live] at outcome
    have other := outcome.foreign_of_no first (Bool.eq_false_iff.2 no)
    rw [Stage.owns_text] at other
    cases other

/-- So does a run of such steps. -/
theorem Leads.run {steps : List (Step ι)} (leads : crew.Leads s i)
    (lasts : crew.NeverLapses s steps)
    (stays : ∀ x ∈ steps, x ≠ .act i (.begin (.call .unlock))) :
    crew.Leads (steps.foldl crew.step s) i := by
  induction steps generalizing s with
  | nil => exact leads
  | cons x steps ih =>
    exact ih (leads.step tokens lasts.1 (stays x List.mem_cons_self)) lasts.2
      fun y mem => stays y (List.mem_cons_of_mem x mem)

end Crew

/-! ## An attempt inside the outer hold -/

/-- How far a handle is with an attempt that it made when it had ended some operations, where
`stored` is in the key, and which steps of its own are left. Steps that are left over when the
attempt has ended do nothing. -/
inductive Client.Entering {ι : Type} (j : ι) (h : Handle) (stored : String)
    (old : List (Op × Except Error Bool)) : List (Step ι) → Client → Prop
  | begins {c : Client} (free : c.task = .free) (same : c.results = old) :
    Entering j h stored old (Step.call j .tryLock 3) c
  | asks {c : Client} {since count : Nat} {stage : Stage}
    (asking : c.task = .asking (.call .tryLock) since stage) (attempt : stage.call = .tryLock)
    (left : stage.later < count) (same : c.results = old) :
    Entering j h stored old (Step.questions j count) c
  | hears {c : Client} {since count : Nat} {stage : Stage}
    (answered : c.task =
      .answered (.call .tryLock) since stage (.ok (.ofBool (stage.succeeds h stored))))
    (attempt : stage.call = .tryLock) (left : stage.later ≤ count) (same : c.results = old) :
    Entering j h stored old (.act j .resume :: Step.questions j count) c
  | entered {c : Client} {own : List (Step ι)} (free : c.task = .free)
    (reentrant : c.hold.isReentrant = true) (ended : c.results = (.call .tryLock, .ok true) :: old)
    (idle : ∀ x ∈ own, x = .ask j ∨ x = .act j .resume) : Entering j h stored old own c

namespace Crew

variable {ι : Type} [DecidableEq ι] {crew : Crew ι} {s : System ι} {i j : ι} {x : Step ι}

/-- A step of an attempt of its own brings a handle on, inside the hold of another handle of its
thread. -/
theorem entering_step {stored : String} {old : List (Op × Except Error Bool)}
    {own : List (Step ι)} (other : stored ≠ (crew.handle j).token.text)
    (owned : (crew.handle j).token.sameOwner stored = true)
    (fits : (crew.handle j).leaseMillis ≤ 9223372036854775807) (stores : crew.Stores s stored)
    (entering : (s.client j).Entering j (crew.handle j) stored old (x :: own)) :
    ((crew.step s x).client j).Entering j (crew.handle j) stored old own := by
  generalize left : x :: own = steps at entering
  cases entering with
  | begins free same =>
    obtain ⟨rfl, rfl⟩ := List.cons.inj left
    rw [client_act]
    have start (stage : Stage) (hold : Hold)
        (starts : Call.tryLock.start (s.client j).hold = { hold, next := .ask stage }) :
        (s.client j).act (crew.handle j) s.now (.begin (.call .tryLock)) =
          { s.client j with hold, task := .asking (.call .tryLock) s.now stage } := by
      simp only [Client.act, free, Client.move, starts]
    by_cases fresh : (s.client j).hold.isFresh = true
    · rw [start .extending (s.client j).hold (if_pos fresh)]
      exact .asks rfl rfl (by decide) same
    · rw [start .acquiring (s.client j).hold (if_neg fresh)]
      exact .asks rfl rfl (by decide) same
  | @asks _ since count stage asking attempt more same =>
    obtain _ | count := count
    · exact absurd more (Nat.not_lt_zero _)
    obtain ⟨rfl, rfl⟩ := List.cons.inj left
    obtain ⟨answer, outcome, client⟩ := crew.step_ask s asking
    obtain ⟨expiry, live⟩ := stores
    rw [live] at outcome
    obtain rfl := outcome.answer_eq fun _ => fits
    rw [client, Function.update_self]
    exact .hears rfl attempt (Nat.le_of_lt_succ more) same
  | @hears _ since count stage answered attempt more same =>
    obtain ⟨rfl, rfl⟩ := List.cons.inj left
    rw [client_act]
    simp only [Client.act, answered]
    have bound := stage.questions_resume (s.client j).hold
      (.ok (.ofBool (stage.succeeds (crew.handle j) stored)))
    obtain ⟨next, asks, attempt'⟩ | ⟨ends, reentrant⟩ :=
      Stage.resume_of_nested (s.client j).hold attempt other owned
    · rw [asks] at bound
      simp only [Client.move, asks]
      exact .asks rfl attempt' (Nat.lt_of_lt_of_le bound more) same
    · refine .entered ?_ ?_ ?_ ?_
      · simp only [Client.move, ends]
        rfl
      · rw [Client.hold_move, reentrant]
        rfl
      · simp only [Client.move, ends, Client.settle, Client.finish, same]
      · simp [Step.questions]
  | entered free reentrant ended idle =>
    subst left
    have rest : ∀ y ∈ own, y = .ask j ∨ y = .act j .resume :=
      fun y mem => idle y (List.mem_cons_of_mem x mem)
    have still : (crew.step s x).client j = s.client j := by
      rcases idle x List.mem_cons_self with rfl | rfl
      · rw [crew.step_ask_of_not s (by simp [free])]
      · rw [client_act]
        simp only [Client.act, free]
    rw [still]
    exact .entered free reentrant ended rest

omit [DecidableEq ι] in
/-- With its steps done, the attempt has succeeded. -/
theorem ended_of_entering {h : Handle} {stored : String} {old : List (Op × Except Error Bool)}
    {c : Client} (entering : c.Entering j h stored old []) :
    c.task = .free ∧ c.results = (.call .tryLock, .ok true) :: old ∧ c.hold.isReentrant = true := by
  generalize left : ([] : List (Step ι)) = own at entering
  cases entering with
  | begins | hears => cases left
  | @asks _ since count =>
    obtain _ | count := count
    · exact absurd ‹_ < 0› (Nat.not_lt_zero _)
    · cases left
  | entered free reentrant ended => exact ⟨free, ended, reentrant⟩

/-- An attempt inside the hold of another handle of the thread succeeds with a reentrant hold. -/
theorem Leads.entered (tokens : Function.Injective fun i => (crew.handle i).token)
    (leads : crew.Leads s i) (other : j ≠ i) (nested : ¬crew.Foreign i j)
    (fits : (crew.handle j).leaseMillis ≤ 9223372036854775807) {steps : List (Step ι)}
    (lasts : crew.NeverLapses s steps)
    (stays : ∀ x ∈ steps, x ≠ .act i (.begin (.call .unlock)))
    {old : List (Op × Except Error Bool)}
    (entering : (s.client j).Entering j (crew.handle j) (crew.handle i).token.text old
      (steps.filter (Step.isOf j))) :
    let c := (steps.foldl crew.step s).client j
    c.task = .free ∧ c.results = (.call .tryLock, .ok true) :: old ∧
      c.hold.isReentrant = true := by
  induction steps generalizing s with
  | nil => exact ended_of_entering entering
  | cons x steps ih =>
    refine ih (leads.step tokens lasts.1 (stays x List.mem_cons_self)) lasts.2
      (fun y mem => stays y (List.mem_cons_of_mem x mem)) ?_
    rw [List.filter_cons] at entering
    split at entering
    · refine entering_step ?_ ?_ fits leads.stores entering
      · exact fun same => other (crew.eq_of_text_eq tokens same).symm
      · exact crew.sameOwner_of_not_foreign fun foreign => nested foreign.symm
    · next others => rwa [client_step_of_other (Bool.eq_false_iff.2 others)]

/-! ## The first unlock of the outer handle -/

/-- Steps that are none of its own handle leave a token in the key. -/
theorem Stores.foldl_of_others (tokens : Function.Injective fun i => (crew.handle i).token)
    {steps : List (Step ι)} (stores : crew.Stores s (crew.handle i).token.text)
    (lasts : crew.NeverLapses s steps) (others : steps.filter (Step.isOf i) = []) :
    crew.Stores (steps.foldl crew.step s) (crew.handle i).token.text := by
  induction steps generalizing s with
  | nil => exact stores
  | cons x steps ih =>
    have none := List.filter_eq_nil_iff.1 others
    refine ih (stores.step tokens lasts.1 ?_) lasts.2 ?_
    · rintro op since rfl
      exact absurd (none _ List.mem_cons_self) (by simp [Step.isOf])
    · exact List.filter_eq_nil_iff.2 fun y mem => none y (List.mem_cons_of_mem x mem)

/-- Its own steps of a run, if there is one of them, part it in two. -/
theorem exists_of_filter_eq_singleton {steps : List (Step ι)}
    (own : steps.filter (Step.isOf i) = [x]) :
    ∃ first last, steps = first ++ x :: last ∧ first.filter (Step.isOf i) = [] ∧
      last.filter (Step.isOf i) = [] := by
  obtain ⟨first, last, rfl, none, -, rest⟩ := List.filter_eq_cons_iff.1 own
  exact ⟨first, last, rfl, List.filter_eq_nil_iff.2 none, rest⟩

/-- An unlock of the outer handle succeeds and deletes the key, whatever others do before its
question reaches the store and after it. -/
theorem Leads.unlocked (tokens : Function.Injective fun i => (crew.handle i).token)
    (leads : crew.Leads s i) (free : (s.client i).task = .free) {before after : List (Step ι)}
    (lasts : crew.NeverLapses s before)
    (begins : before.filter (Step.isOf i) = [.act i (.begin (.call .unlock))])
    (hears : after.filter (Step.isOf i) = [.act i .resume]) :
    let asked := crew.step (before.foldl crew.step s) (.ask i)
    crew.live asked = none ∧ ((after.foldl crew.step asked).client i).results =
      (.call .unlock, .ok true) :: (s.client i).results := by
  obtain ⟨early, late, rfl, others, others'⟩ := exists_of_filter_eq_singleton begins
  obtain ⟨soon, rest, rfl, others₁, others₂⟩ := exists_of_filter_eq_singleton hears
  obtain ⟨lasts, -, lasts'⟩ := lasts.append
  intro asked
  let first := early.foldl crew.step s
  let begun := crew.step first (.act i (.begin (.call .unlock)))
  have own : first.client i = s.client i := client_foldl_of_others others
  have leads' : crew.Leads first i := by
    refine leads.run tokens lasts ?_
    rintro x mem rfl
    exact absurd (List.filter_eq_nil_iff.1 others _ mem) (by simp [Step.isOf])
  have asking : begun.client i =
      { s.client i with hold := .none, task := .asking (.call .unlock) first.now .releasing } := by
    rw [crew.client_act, own]
    simp only [Client.act, free, Client.move, Call.start_unlock leads.fresh]
  -- others leave the token in the key until the question reaches the store
  have stores : crew.Stores begun (crew.handle i).token.text := leads'.stores
  obtain ⟨expiry, live⟩ := stores.foldl_of_others tokens lasts' others'
  have still : (late.foldl crew.step begun).client i = begun.client i :=
    client_foldl_of_others others'
  have task : ((late.foldl crew.step begun).client i).task =
      .asking (.call .unlock) first.now .releasing := by
    rw [still, asking]
  obtain ⟨answer, outcome, client⟩ := crew.step_ask _ task
  rw [live] at outcome
  obtain ⟨rfl, gone⟩ := outcome.released_of_own
  have there : asked = crew.step (late.foldl crew.step begun) (.ask i) := by
    simp only [asked, begun, first, List.foldl_append, List.foldl_cons]
  refine ⟨there ▸ gone, ?_⟩
  rw [List.foldl_append, List.foldl_cons, client_foldl_of_others others₂, client_act,
    client_foldl_of_others others₁, there, client, Function.update_self, still, asking]
  rfl

end Crew

/-- Nested handles leave the outer lock in place. Let a handle of a crew whose tokens are its own
have nothing to do and hold its lock fresh, with its token in the key, in any state of the system.
Let then any handles of any owners take any steps, of which none begins an unlock of that handle,
and in which the lease of the key does not lapse.

Then the key still holds the token of the handle, and the handle still holds its lock fresh. After
that, an attempt of another handle of its host and thread, whatever this one believes to hold,
ends after at most three questions, with success and a reentrant hold, unless the store cannot read
its lease. And an unlock of the handle itself succeeds, and deletes the key when its question
reaches the store. In between all the other handles go on. -/
theorem outer_kept {ι : Type} [DecidableEq ι] (crew : Crew ι)
    (tokens : Function.Injective fun i => (crew.handle i).token) (i : ι) (s : System ι)
    (free : (s.client i).task = .free) (fresh : (s.client i).hold.isFresh = true)
    (stores : crew.Stores s (crew.handle i).token.text) (steps : List (Step ι))
    (lasts : crew.NeverLapses s steps)
    (stays : ∀ x ∈ steps, x ≠ .act i (.begin (.call .unlock))) :
    let s' := steps.foldl crew.step s
    crew.Stores s' (crew.handle i).token.text ∧ (s'.client i).hold.isFresh = true ∧
      (∀ j, j ≠ i → ¬crew.Foreign i j → (crew.handle j).leaseMillis ≤ 9223372036854775807 →
        (s'.client j).task = .free → ∀ more, crew.NeverLapses s' more →
        (∀ x ∈ more, x ≠ .act i (.begin (.call .unlock))) →
        more.filter (Step.isOf j) = Step.call j .tryLock 3 →
        let c := (more.foldl crew.step s').client j
        c.task = .free ∧ c.results = (.call .tryLock, .ok true) :: (s'.client j).results ∧
          c.hold.isReentrant = true) ∧
      ((s'.client i).task = .free → ∀ before after : List (Step ι), crew.NeverLapses s' before →
        before.filter (Step.isOf i) = [.act i (.begin (.call .unlock))] →
        after.filter (Step.isOf i) = [.act i .resume] →
        let asked := crew.step (before.foldl crew.step s') (.ask i)
        crew.live asked = none ∧ ((after.foldl crew.step asked).client i).results =
          (.call .unlock, .ok true) :: (s'.client i).results) := by
  intro s'
  have start : crew.Leads s i := by
    refine ⟨?_, fresh, ?_, stores⟩
    · rw [free]
      trivial
    · rw [free]
      rintro _ _ _ _ ⟨⟩
  have leads : crew.Leads s' i := start.run tokens lasts stays
  refine ⟨leads.stores, leads.fresh, ?attempt, ?unlock⟩
  case attempt =>
    intro j other nested fits free more lasts stays attempts
    refine leads.entered tokens other nested fits lasts stays ?_
    rw [attempts]
    exact .begins free rfl
  case unlock => exact fun free before after => leads.unlocked tokens free

/-- Inside the hold of a handle of its thread, another one enters and leaves, and enters again
while a handle of another thread is at its attempt. -/
def visit : List (Step Member) :=
  Step.call .short .tryLock 2 ++ Step.call .short .unlock 0 ++
    [.pass (500 * Time.millisecond), .act .foreign (.begin (.call .tryLock)), .ask .foreign]

/-- The attempt of the other handle, between the questions of another thread. -/
def secondVisit : List (Step Member) :=
  [.act .short (.begin (.call .tryLock)), .ask .short, .act .foreign .resume, .act .short .resume,
    .ask .foreign, .ask .short, .pass (500 * Time.millisecond), .act .short .resume, .ask .short,
    .act .foreign .resume, .act .short .resume]

theorem outer_kept_visit :
    let s := Crew.nested.run (Step.call .long .tryLock 1)
    let s' := visit.foldl Crew.nested.step s
    let c := (secondVisit.foldl Crew.nested.step s').client .short
    let asked := Crew.nested.step
      ([.act .long (.begin (.call .unlock)), .pass Time.millisecond].foldl Crew.nested.step s')
      (.ask .long)
    (c.results = (.call .tryLock, .ok true) :: (s'.client .short).results ∧
      c.hold.isReentrant = true) ∧
      Crew.nested.live asked = none ∧
      (([.act .long .resume].foldl Crew.nested.step asked).client .long).results =
        (.call .unlock, .ok true) :: (s'.client .long).results := by
  have tokens : Function.Injective fun i => (Crew.nested.handle i).token := by
    unfold Function.Injective
    decide
  have fits := Crew.nested.fits_run [.act .long (.begin (.call .tryLock))] .long
  have holds : Crew.nested.Holds (Crew.nested.run (Step.call .long .tryLock 1)) .long 0 :=
    Crew.holds_of_grants fits rfl rfl rfl
  have kept := outer_kept Crew.nested tokens .long _ holds.free holds.fresh ⟨_, holds.leased⟩ visit
    (by decide) (by decide)
  have visited := kept.2.2.1 .short (by decide) (by decide) (by decide) rfl secondVisit (by decide)
    (by decide) (by rfl)
  exact ⟨visited.2, kept.2.2.2 rfl _ _ (by decide) (by rfl) (by rfl)⟩

end Turnstile.Lock
