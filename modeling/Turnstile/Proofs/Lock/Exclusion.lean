import Turnstile.Proofs.Lock.Crew

/-!
# Mutual exclusion

A handle has a live fresh hold while it believes to hold its lock fresh and the store gave
its token a lease less than a lease ago (`Crew.HoldsFresh`). `exclusion` : after every run of
a crew with one lease and tokens of its own, at most one handle has such a hold, the key
holds its token until the lease is over, and no question of another thread is answered yes.

What carries the proof (`Crew.Exclusive`) is about handles that claim the lock : those that
hold it fresh, and those that took it but have not taken the answer in. As long as the lease
of a claim runs, the key holds its token.
-/

namespace Turnstile.Lock

/-! ## Claims -/

/-- Whether a handle relies on its own token, or will once it takes its answer in. -/
def Client.Claims (c : Client) : Prop :=
  c.hold.isFresh = true ∨ ∃ op since reply,
    c.task = .answered op since .acquiring (.ok reply) ∧ reply.isYes = true

theorem Call.isFresh_of_start {call : Call} {hold : Hold}
    (fresh : (call.start hold).hold.isFresh = true) : hold.isFresh = true := by
  revert fresh
  fun_cases Call.start <;> simp_all [Hold.none, Hold.isFresh]

theorem Stage.isFresh_of_resume {stage : Stage} {hold : Hold} {answer : Answer}
    (fresh : (stage.resume hold answer).hold.isFresh = true) :
    hold.isFresh = true ∨
      stage = .acquiring ∧ ∃ reply, answer = .ok reply ∧ reply.isYes = true := by
  revert fresh
  fun_cases Stage.resume <;> simp_all [Hold.reentrant, Hold.isFresh]

namespace Client

variable {h : Handle} {now : Nat} {c c' : Client} {a : Act}

theorem isFresh_of_claims_move {op : Op} {since : Nat} {m : Move}
    (claims : (c.move h now op since m).Claims) : m.hold.isFresh = true := by
  rcases claims with fresh | ⟨op', since', reply, answered, -⟩
  · rwa [hold_move] at fresh
  · exact absurd answered task_move_ne_answered

/-- An act of its own gives no handle a claim. -/
theorem Acted.claims (acted : Acted h now c a c') (claims : c'.Claims) : c.Claims := by
  cases acted with
  | idle => exact claims
  | called => exact .inl (Call.isFresh_of_start (isFresh_of_claims_move claims))
  | woken => exact .inl (Call.isFresh_of_start (isFresh_of_claims_move claims))
  | resumed answered =>
    have before := Stage.isFresh_of_resume (isFresh_of_claims_move claims)
    rcases before with fresh | ⟨rfl, reply, rfl, yes⟩
    · exact .inl fresh
    · exact .inr ⟨_, _, reply, answered, yes⟩
  | waited | failed | interrupted =>
    rcases claims with fresh | ⟨_, _, _, task, -⟩
    · exact .inl fresh
    · cases task

end Client

namespace Crew

variable {ι : Type} (crew : Crew ι)

/-- The key holds the token of a handle, at least until some point of time. -/
def Kept (s : System ι) (i : ι) (end' : Nat) : Prop :=
  ∃ expiry, crew.live s = some ⟨.text (crew.handle i).token.text, some expiry⟩ ∧ end' ≤ expiry

/-- A handle believes to hold the lock fresh, and its token was given a lease less than a
lease ago. -/
def HoldsFresh (s : System ι) (i : ι) : Prop :=
  (s.client i).hold.isFresh = true ∧
    ∃ t, (s.client i).granted = some t ∧ s.now < t + (crew.handle i).span

/-- The key holds the token of a handle that claims the lock as long as its lease runs. -/
structure Exclusive (s : System ι) : Prop where
  fits : ∀ i, (s.client i).task.Fits (s.client i).hold
  claims : ∀ i, (s.client i).Claims → ∃ t, (s.client i).granted = some t ∧ t ≤ s.now ∧
    (s.now < t + (crew.handle i).span → crew.Kept s i (t + (crew.handle i).span))

variable {crew} {s : System ι}

/-- Of handles whose tokens are kept there is one. -/
theorem Kept.eq (tokens : Function.Injective fun i => (crew.handle i).token) {i j : ι}
    {t u : Nat} (kept : crew.Kept s i t) (kept' : crew.Kept s j u) : i = j := by
  obtain ⟨e, live, -⟩ := kept
  obtain ⟨e', live', -⟩ := kept'
  rw [live] at live'
  have same := (Entry.mk.inj (Option.some.inj live')).1
  exact crew.eq_of_text_eq tokens (Value.text.inj same)

theorem Exclusive.kept (inv : crew.Exclusive s) {i : ι} (fresh : crew.HoldsFresh s i) :
    ∃ t, (s.client i).granted = some t ∧ crew.Kept s i (t + (crew.handle i).span) := by
  obtain ⟨held, t, granted, early⟩ := fresh
  obtain ⟨t', granted', -, kept⟩ := inv.claims i (.inl held)
  obtain rfl := Option.some.inj (granted.symm.trans granted')
  exact ⟨t, granted, kept early⟩

variable [DecidableEq ι]

/-- A step leaves a token in the key whose time is not over, unless the token is released. -/
theorem Kept.step (tokens : Function.Injective fun i => (crew.handle i).token) {x : Step ι}
    {j : ι} {end' : Nat} (kept : crew.Kept s j end')
    (lasts : ∀ i, end' ≤ s.now + (crew.handle i).span)
    (early : (crew.step s x).now < end')
    (holds : ∀ op since, (s.client j).task ≠ .asking op since .releasing) :
    crew.Kept (crew.step s x) j end' := by
  obtain ⟨expiry, live, le⟩ := kept
  obtain same | ⟨span, rfl, after⟩ | ⟨i, op, since, stage, answer, rfl, asking, -, outcome⟩ :=
    crew.live_step s x
  · exact ⟨expiry, same.trans live, le⟩
  · have unexpired : ¬expiry ≤ s.now + span := by
      have : s.now + span < end' := early
      omega
    refine ⟨expiry, ?_, le⟩
    rw [after, live]
    simp [Entry.isExpired, unexpired]
  · rw [live] at outcome
    have others : stage = .releasing → (crew.handle j).token.text ≠ (crew.handle i).token.text := by
      rintro rfl same
      obtain rfl := crew.eq_of_text_eq tokens same
      exact holds op since asking
    obtain ⟨expiry', after, rfl | rfl⟩ := outcome.kept others
    · exact ⟨expiry', after, le⟩
    · exact ⟨_, after, lasts i⟩

namespace Exclusive

/-- A step keeps the claims of all handles, and gives one only with a lease. -/
theorem step (inv : crew.Exclusive s) (tokens : Function.Injective fun i => (crew.handle i).token)
    (lease : ∀ i j, (crew.handle i).span = (crew.handle j).span) (x : Step ι) :
    crew.Exclusive (crew.step s x) where
  fits i := crew.fits_step s x (inv.fits i)
  claims := by
    intro i claims
    have le := crew.now_le_step s x
    -- a claim from before is kept, as its lease is no longer than one from now on
    have keep (before : (s.client i).Claims)
        (holds : ∀ op since, (s.client i).task ≠ .asking op since .releasing) :
        ∃ t, (s.client i).granted = some t ∧ t ≤ (crew.step s x).now ∧
          ((crew.step s x).now < t + (crew.handle i).span →
            crew.Kept (crew.step s x) i (t + (crew.handle i).span)) := by
      obtain ⟨t, granted, past, kept⟩ := inv.claims i before
      refine ⟨t, granted, Nat.le_trans past le, fun early => ?_⟩
      refine (kept (Nat.lt_of_le_of_lt le early)).step tokens (fun j => ?_) early holds
      rw [lease i j]
      omega
    -- a handle that releases claims nothing
    have holds (before : (s.client i).Claims) (op : Op) (since : Nat) :
        (s.client i).task ≠ .asking op since .releasing := by
      intro asking
      have fits := inv.fits i
      rw [asking] at fits
      rcases before with fresh | ⟨_, _, _, answered, -⟩
      · rw [fits.1] at fresh
        cases fresh
      · cases asking.symm.trans answered
    obtain same | ⟨a, -, acted⟩ | ⟨op, since, stage, answer, rfl, asking, outcome, after⟩ :=
      crew.client_step s x i
    · rw [same] at claims ⊢
      exact keep claims (holds claims)
    · rw [acted.granted]
      exact keep (acted.claims claims) (holds (acted.claims claims))
    · rw [after] at claims ⊢
      by_cases grants : stage.grants answer = true
      · rw [crew.now_ask]
        refine ⟨s.now, if_pos grants, Nat.le_refl _, fun _ => ?_⟩
        exact ⟨_, outcome.granted grants, Nat.le_refl _⟩
      · have fresh : (s.client i).Claims := by
          rcases claims with fresh | ⟨_, _, reply, task, yes⟩
          · exact .inl fresh
          · cases task
            exact absurd yes grants
        unfold Client.answer
        rw [if_neg grants]
        exact keep fresh (holds fresh)

theorem run (tokens : Function.Injective fun i => (crew.handle i).token)
    (lease : ∀ i j, (crew.handle i).span = (crew.handle j).span) (steps : List (Step ι)) :
    crew.Exclusive (crew.run steps) := by
  refine crew.run_induction ?_ (fun s x inv => inv.step tokens lease x) steps
  refine ⟨fun _ => trivial, ?_⟩
  rintro i (fresh | ⟨_, _, _, task, -⟩)
  · cases fresh
  · cases task

end Exclusive

end Crew

/-- Mutual exclusion. Let handles on one key have one lease, tokens of their own and hosts
without colons. After every run of their operations, question by question, with any time
between two questions and any question lost : at most one handle has a live fresh hold, the
key holds its token for at least a lease from when the store last gave it one, and a question
of another handle is answered yes only if that handle is of the same host and thread. -/
theorem exclusion {ι : Type} [DecidableEq ι] (crew : Crew ι) (lease : Nat)
    (leases : ∀ i, (crew.handle i).leaseMillis = lease)
    (hosts : ∀ i, ':' ∉ (crew.handle i).token.host.toList)
    (tokens : Function.Injective fun i => (crew.handle i).token) (steps : List (Step ι)) :
    let s := crew.run steps
    (∀ i j, crew.HoldsFresh s i → crew.HoldsFresh s j → i = j) ∧
      (∀ i, crew.HoldsFresh s i →
        ∃ t, (s.client i).granted = some t ∧ crew.Kept s i (t + Time.ofMillis lease)) ∧
      ∀ i j op since stage reply, crew.HoldsFresh s i →
        (s.client j).task = .asking op since stage →
        (s.store.eval s.now (stage.request (crew.handle j))).1 = .ok reply →
        reply.isYes = true →
        (crew.handle j).token.host = (crew.handle i).token.host ∧
          (crew.handle j).token.thread = (crew.handle i).token.thread := by
  intro s
  have span (i : ι) : (crew.handle i).span = Time.ofMillis lease := by
    unfold Handle.span
    rw [leases i]
  have inv : crew.Exclusive s :=
    .run tokens (fun i j => (span i).trans (span j).symm) steps
  refine ⟨fun i j fresh fresh' => ?_, fun i fresh => ?_, ?_⟩
  · obtain ⟨_, _, kept⟩ := inv.kept fresh
    obtain ⟨_, _, kept'⟩ := inv.kept fresh'
    exact kept.eq tokens kept'
  · rw [← span i]
    exact inv.kept fresh
  · intro i j op since stage reply fresh _ answer yes
    obtain ⟨_, _, expiry, live, -⟩ := inv.kept fresh
    have outcome := stage.outcome (crew.handle j) s.store s.now
    rw [crew.key_handle j, show s.store.live? s.now crew.key = _ from live, answer] at outcome
    have owns := Stage.sameOwner_of_owns (outcome.owns_of_yes yes)
    rwa [Token.sameOwner_text_iff ⟨hosts j, hosts i⟩
      ⟨crew.colon_notMem_thread j, crew.colon_notMem_thread i⟩] at owns

/-- The first thread takes the lock, and the second waits for it. -/
def contest : List (Step Bool) :=
  [.act false (.begin (.call .tryLock)), .act true (.begin (.wait Time.second)), .act true .wake,
    .ask false, .pass Time.millisecond, .ask true, .act false .resume]

theorem exclusion_contest :
    Crew.twoThreads.HoldsFresh (Crew.twoThreads.run contest) false ∧
      ∀ i, Crew.twoThreads.HoldsFresh (Crew.twoThreads.run contest) i → i = false := by
  have taken : Crew.twoThreads.HoldsFresh (Crew.twoThreads.run contest) false := by
    exact ⟨by decide, 0, by rfl, by decide⟩
  have tokens : Function.Injective fun i => (Crew.twoThreads.handle i).token := by
    unfold Function.Injective
    decide
  refine ⟨taken, fun i fresh => ?_⟩
  have one := (exclusion Crew.twoThreads 30000 (by decide) (by decide) tokens contest).1
  exact one i false fresh taken

end Turnstile.Lock
