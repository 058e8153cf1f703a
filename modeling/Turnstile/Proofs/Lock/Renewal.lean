import Turnstile.Proofs.Lock.Tenure

/-!
# Renewals among other owners

A handle that holds its lock fresh renews it again and again and gives it up in the end, while
handles of other hosts and threads act before and after each of its questions. As time passes
only while others act, the others decide how far two questions are apart (`Spaced`).

`undisturbed` : up to the end of the last lease that the handle was given the key holds exactly
what it left there; renewals that follow each other within a lease all succeed; and an unlock
within a lease of the last of them deletes the key.
-/

namespace Turnstile.Lock

/-! ## How time passes -/

/-- How much time passes in a step. -/
def Step.span {ι : Type} : Step ι → Nat
  | pass span => span
  | _ => 0

/-- How much time passes in some steps. -/
def elapsed {ι : Type} : List (Step ι) → Nat
  | [] => 0
  | x :: steps => x.span + elapsed steps

namespace Crew

variable {ι : Type} [DecidableEq ι] (crew : Crew ι)

theorem now_step (s : System ι) (x : Step ι) : (crew.step s x).now = s.now + x.span := by
  cases x with
  | act | pass => rfl
  | ask i => exact crew.now_ask s i
  | other r =>
    unfold step
    dsimp only
    split <;> rfl

/-- All the time that passes while others act is their doing. -/
theorem now_others (i : ι) (s : System ι) (steps : List (Step ι)) :
    (crew.others i s steps).now = s.now + elapsed steps := by
  induction steps generalizing s with
  | nil => rfl
  | cons x steps ih =>
    rw [others_cons, elapsed]
    split
    · next own =>
      -- time does not pass in a step of the handle
      have still : x.span = 0 := by
        cases x <;> first | rfl | cases own
      rw [ih, still, Nat.zero_add]
    · rw [ih, now_step, Nat.add_assoc]

end Crew

/-! ## Calls one after the other -/

/-- Questions are asked within a limit of each other, where some time is over since the last
one. -/
def Spaced {ι : Type} (limit : Nat) : Nat → List (Turn ι) → Prop
  | _, [] => True
  | since, turn :: turns =>
    since + elapsed turn.before < limit ∧ Spaced limit (elapsed turn.after) turns

theorem Spaced.of_append {ι : Type} {limit since : Nat} {turns more : List (Turn ι)}
    (spaced : Spaced limit since (turns ++ more)) : Spaced limit since turns := by
  induction turns generalizing since with
  | nil => trivial
  | cons turn turns ih => exact ⟨spaced.1, ih spaced.2⟩

/-- Runs calls one after the other : their results. -/
def Handle.runs {σ : Type} (env : Surroundings σ) (h : Handle) :
    List Call → σ → List (Except StoreError Bool) × σ
  | [], s => ([], s)
  | call :: calls, s =>
    let (result, _, s) := h.run env call s
    let (results, s) := h.runs env calls s
    (result :: results, s)

/-- A handle that holds its lock fresh renews it by its token. -/
theorem Call.start_renew {hold : Hold} (fresh : hold.isFresh = true) :
    renew.start hold = ⟨hold, [], .ask (.renewing false)⟩ := by
  have held : hold.held = true := (Bool.and_eq_true_iff.1 fresh).1
  simp [start, held, Hold.nested_of_isFresh fresh]

/-- An attempt of a handle that holds its lock fresh extends the hold. -/
theorem Call.start_tryLock {hold : Hold} (fresh : hold.isFresh = true) :
    tryLock.start hold = ⟨hold, [], .ask .extending⟩ := by
  simp [start, fresh]

/-- A handle that holds its lock fresh has the key deleted when it unlocks. -/
theorem Call.start_unlock {hold : Hold} (fresh : hold.isFresh = true) :
    unlock.start hold = ⟨.none, [], .ask .releasing⟩ := by
  have held : hold.held = true := (Bool.and_eq_true_iff.1 fresh).1
  simp [start, held, Hold.not_isReentrant_of_isFresh fresh]

namespace Crew

variable {ι : Type} [DecidableEq ι] (crew : Crew ι)

/-- Setting the flags of a handle to what they are changes nothing. -/
theorem commit_hold (i : ι) (events : List Event) (p : Course ι) :
    (crew.among i).commit ((crew.among i).hold p) events p = p := by
  change (⟨p.system.setClient i (p.system.client i), p.turns⟩ : Course ι) = p
  rw [System.setClient_client]

/-! ## A question among other owners -/

/-- What happens around a question of a handle is not done by others of its host and thread, and
the question is not lost. -/
structure Peaceful (i : ι) (turn : Turn ι) : Prop where
  heard : turn.lost = none
  before : ∀ x ∈ turn.before, crew.Apart i x
  after : ∀ x ∈ turn.after, crew.Apart i x

variable {crew} {s : System ι} {i : ι} {t : Nat}

/-- A handle that the store gave a lease in a run has one that fits 64 bits. -/
theorem leaseMillis_le_of_granted (steps : List (Step ι))
    (granted : ((crew.run steps).client i).granted = some t) :
    (crew.handle i).leaseMillis ≤ 9223372036854775807 := by
  refine crew.run_induction (P := fun s => ∀ t, (s.client i).granted = some t →
    (crew.handle i).leaseMillis ≤ 9223372036854775807) ?start ?step steps t granted
  case start =>
    intro t granted
    cases granted
  case step =>
    intro s x fits t granted
    obtain same | ⟨a, -, acted⟩ | ⟨op, since, stage, _, rfl, asking, -, -⟩ :=
      crew.client_step s x i
    · exact fits t (same ▸ granted)
    · exact fits t (acted.granted ▸ granted)
    · by_cases grants :
        stage.grants (s.store.eval s.now (stage.request (crew.handle i))).1 = true
      · obtain ⟨reply, answered, -⟩ := Stage.isYes_of_grants grants
        refine Stage.leaseMillis_le_of_reply answered ?_
        rintro rfl
        cases grants
      · refine fits t ?_
        rw [← granted]
        simp [Crew.step, asking, Client.answer, grants]

variable (hosts : ∀ i, ':' ∉ (crew.handle i).token.host.toList)

include hosts

/-- What others do leaves the key as long as the lease runs. -/
theorem LeasedFrom.others {steps : List (Step ι)} (apart : ∀ x ∈ steps, crew.Apart i x)
    (early : (crew.others i s steps).now < t + (crew.handle i).span)
    (leased : crew.LeasedFrom s i t) : crew.LeasedFrom (crew.others i s steps) i t := by
  induction steps generalizing s with
  | nil => exact leased
  | cons x steps ih =>
    have rest : ∀ x ∈ steps, crew.Apart i x := fun y mem => apart y (List.mem_cons_of_mem x mem)
    rw [others_cons] at early ⊢
    split at early
    · next own =>
      rw [if_pos own]
      exact ih rest early leased
    · next other =>
      rw [if_neg other]
      have le := crew.now_le_others (crew.step s x) i steps
      exact ih rest early (leased.step hosts (apart x List.mem_cons_self)
        (Bool.eq_false_iff.2 other) (Nat.lt_of_le_of_lt le early))

/-- A question that reaches the store within the lease of a handle finds the handle's token
there. -/
theorem ask_own (stage : Stage) {turn : Turn ι} {turns : List (Turn ι)}
    (leased : crew.LeasedFrom s i t) (peaceful : crew.Peaceful i turn)
    (early : s.now + elapsed turn.before < t + (crew.handle i).span) :
    ∃ answer took s', (crew.among i).ask (stage.request (crew.handle i)) ⟨s, turn :: turns⟩ =
        (answer, took, ⟨crew.others i s' turn.after, turns⟩) ∧
      s'.now = s.now + elapsed turn.before ∧ s'.client i = s.client i ∧
      Stage.Outcome (crew.handle i) s'.now
        (some ⟨.text (crew.handle i).token.text, some (t + (crew.handle i).span)⟩) stage answer
        (crew.live s') := by
  have now := crew.now_others i s turn.before
  have before : crew.LeasedFrom (crew.others i s turn.before) i t :=
    leased.others hosts peaceful.before (now ▸ early)
  have outcome := crew.outcome_eval (crew.others i s turn.before) i stage
  rw [before] at outcome
  refine ⟨_, _, _, ask_among i _ _ peaceful.heard, now, client_others .., outcome⟩

/-! ## Renewals and an unlock -/

/-- A call that asks for a new lease of the handle's own token within its lease gives it one. -/
theorem extend_own (fits : (crew.handle i).leaseMillis ≤ 9223372036854775807) {call : Call}
    {stage : Stage} (renewal : stage = .renewing false ∨ stage = .extending)
    (start : ∀ hold : Hold, hold.isFresh = true → call.start hold = ⟨hold, [], .ask stage⟩)
    {turn : Turn ι} {turns : List (Turn ι)} (fresh : (s.client i).hold.isFresh = true)
    (leased : crew.LeasedFrom s i t) (peaceful : crew.Peaceful i turn)
    (early : s.now + elapsed turn.before < t + (crew.handle i).span) :
    let asked := s.now + elapsed turn.before
    ∃ took s', (crew.handle i).run (crew.among i) call ⟨s, turn :: turns⟩ =
        (.ok true, took, ⟨s', turns⟩) ∧
      (s'.client i).hold.isFresh = true ∧ s'.now = asked + elapsed turn.after ∧
      (s'.now < asked + (crew.handle i).span → crew.LeasedFrom s' i asked) := by
  intro asked
  obtain ⟨answer, took, s', answers, now, client, outcome⟩ :=
    ask_own hosts stage leased peaceful early
  obtain ⟨rfl, given⟩ := outcome.extended_of_own (by rcases renewal with rfl | rfl <;> simp)
    (by rcases renewal with rfl | rfl <;> simp) fits
  have yes (hold : Hold) : stage.resume hold (.ok (.ofBool true)) =
      ⟨hold, [.renewed], .finish (.ok true)⟩ := by
    rcases renewal with rfl | rfl <;> rfl
  refine ⟨0 + took, crew.others i s' turn.after, ?_, ?_, ?_, fun lasts => ?_⟩
  · rw [← crew.commit_hold i [] ⟨s, turn :: turns⟩] at answers
    rw [Handle.run, start ((crew.among i).hold ⟨s, turn :: turns⟩) fresh,
      Handle.follow_of_answer rfl answers (by rw [yes]), yes]
    exact Prod.ext rfl (Prod.ext rfl (crew.commit_hold i [.renewed] _))
  · rw [client_others, client]
    exact fresh
  · rw [now_others, now]
  · rw [now] at given
    exact LeasedFrom.others hosts peaceful.after lasts given

/-- An unlock within the lease of a handle deletes the key, and leaves the handle without a
hold. -/
theorem give_up_own {turn : Turn ι} {turns : List (Turn ι)}
    (fresh : (s.client i).hold.isFresh = true) (leased : crew.LeasedFrom s i t)
    (peaceful : crew.Peaceful i turn)
    (early : s.now + elapsed turn.before < t + (crew.handle i).span) :
    ∃ s', (crew.handle i).unlock (crew.among i) ⟨s, turn :: turns⟩ =
        (true, ⟨crew.others i s' turn.after, turns⟩) ∧ crew.live s' = none ∧
      (s'.client i).hold = .none := by
  let released : System ι := s.setClient i { s.client i with hold := .none }
  have leased' : crew.LeasedFrom released i t := leased
  obtain ⟨answer, took, s', answers, -, client, outcome⟩ :=
    ask_own hosts .releasing leased' peaceful early
  obtain ⟨rfl, gone⟩ := outcome.released_of_own
  have start : Call.unlock.start ((crew.among i).hold ⟨s, turn :: turns⟩) =
      ⟨.none, [], .ask .releasing⟩ := Call.start_unlock fresh
  have ran : (crew.handle i).run (crew.among i) .unlock ⟨s, turn :: turns⟩ =
      (.ok true, 0 + took, ⟨crew.others i s' turn.after, turns⟩) := by
    rw [Handle.run, start, Handle.follow_of_answer rfl answers rfl]
    exact Prod.ext rfl (Prod.ext rfl (crew.commit_hold i [.released] _))
  refine ⟨s', ?_, gone, ?_⟩
  · unfold Handle.unlock
    rw [ran]
  · rw [client, System.client_setClient]

/-- An unlock within the lease of a handle deletes the key. -/
theorem unlock_own {turn : Turn ι} {turns : List (Turn ι)}
    (fresh : (s.client i).hold.isFresh = true) (leased : crew.LeasedFrom s i t)
    (peaceful : crew.Peaceful i turn)
    (early : s.now + elapsed turn.before < t + (crew.handle i).span) :
    ∃ s', (crew.handle i).unlock (crew.among i) ⟨s, turn :: turns⟩ =
        (true, ⟨crew.others i s' turn.after, turns⟩) ∧ crew.live s' = none := by
  obtain ⟨s', unlocked, gone, -⟩ := give_up_own hosts fresh leased peaceful early
  exact ⟨s', unlocked, gone⟩

/-- Renewals that follow each other within a lease all succeed, and leave the handle its lock. -/
theorem runs_renew (fits : (crew.handle i).leaseMillis ≤ 9223372036854775807)
    {turns : List (Turn ι)} (rest : List (Turn ι))
    (peaceful : ∀ turn ∈ turns, crew.Peaceful i turn)
    (fresh : (s.client i).hold.isFresh = true)
    (leased : s.now < t + (crew.handle i).span → crew.LeasedFrom s i t)
    (spaced : Spaced (crew.handle i).span (s.now - t) turns) :
    ∃ s' t', (crew.handle i).runs (crew.among i) (turns.map fun _ => .renew) ⟨s, turns ++ rest⟩ =
        (turns.map fun _ => .ok true, ⟨s', rest⟩) ∧
      (s'.client i).hold.isFresh = true ∧
      (s'.now < t' + (crew.handle i).span → crew.LeasedFrom s' i t') ∧
      ∀ last, Spaced (crew.handle i).span (s.now - t) (turns ++ [last]) →
        s'.now + elapsed last.before < t' + (crew.handle i).span := by
  -- a renewal starts the lease anew when its question is answered, so that of the new lease is
  -- over at the next turn what passes after the question
  induction turns generalizing s t with
  | nil =>
    refine ⟨s, t, rfl, fresh, leased, fun last spaced' => ?_⟩
    have := spaced'.1
    omega
  | cons turn turns ih =>
    have early : s.now + elapsed turn.before < t + (crew.handle i).span := by
      have := spaced.1
      omega
    obtain ⟨took, s₁, ran, fresh₁, now, leased₁⟩ := extend_own hosts fits (.inl rfl)
      (fun _ => Call.start_renew) fresh (leased (by omega)) (peaceful turn List.mem_cons_self) early
    have since : s₁.now - (s.now + elapsed turn.before) = elapsed turn.after := by omega
    obtain ⟨s', t', ran', fresh', leased', later⟩ :=
      ih (fun turn mem => peaceful turn (List.mem_cons_of_mem _ mem)) fresh₁ leased₁
        (since ▸ spaced.2)
    refine ⟨s', t', ?_, fresh', leased', fun last spaced' => later last ?_⟩
    · rw [List.map_cons, List.cons_append, Handle.runs, ran]
      simp only [ran']
      rfl
    · rw [since]
      exact spaced'.2

end Crew

/-- A lock among other owners. Let a handle of a crew, whose hosts have no colons, hold its lock
fresh after a run, as the store left it when it last gave the handle a lease.

Whatever handles of other hosts and threads do, with the handle renewing in between, question by
question : up to the end of the last lease that the handle was given, it holds its lock fresh, and
the key holds its token with exactly this end.

If its renewals ask within a lease of each other, they all succeed; and an unlock that asks within
a lease of the last of them succeeds and deletes the key. -/
theorem undisturbed {ι : Type} [DecidableEq ι] (crew : Crew ι)
    (hosts : ∀ i, ':' ∉ (crew.handle i).token.host.toList) (steps : List (Step ι)) (i : ι) (t : Nat)
    (holds : crew.Holds (crew.run steps) i t) :
    let s := crew.run steps
    let h := crew.handle i
    let env := crew.among i
    (∀ more, (∀ x ∈ more, crew.Apart i x ∧ x.OnlyRenews i) →
      let s' := crew.run (steps ++ more)
      ∃ t', (s'.client i).granted = some t' ∧ (s'.now < t' + h.span →
        (s'.client i).hold.isFresh = true ∧
          crew.live s' = some ⟨.text h.token.text, some (t' + h.span)⟩)) ∧
      (∀ turns, (∀ turn ∈ turns, crew.Peaceful i turn) → Spaced h.span (s.now - t) turns →
        (h.runs env (turns.map fun _ => .renew) ⟨s, turns⟩).1 = turns.map fun _ => .ok true) ∧
      ∀ turns last, (∀ turn ∈ turns ++ [last], crew.Peaceful i turn) →
        Spaced h.span (s.now - t) (turns ++ [last]) →
        ∃ p s', h.runs env (turns.map fun _ => .renew) ⟨s, turns ++ [last]⟩ =
            (turns.map fun _ => .ok true, p) ∧
          h.unlock env p = (true, ⟨crew.others i s' last.after, []⟩) ∧ crew.live s' = none := by
  intro s h env
  have fits := Crew.leaseMillis_le_of_granted steps holds.granted
  refine ⟨?exact, ?renewals, ?unlock⟩
  case exact =>
    intro more apart s'
    obtain ⟨t', keeps⟩ := holds.keeps.run hosts apart
    exact ⟨t', keeps.granted, fun early => ⟨keeps.fresh early, keeps.leased early⟩⟩
  case renewals =>
    intro turns peaceful spaced
    obtain ⟨s', t', ran, -⟩ :=
      Crew.runs_renew hosts fits [] peaceful holds.fresh (fun _ => holds.leased) spaced
    rw [List.append_nil] at ran
    rw [ran]
  case unlock =>
    intro turns last peaceful spaced
    obtain ⟨s', t', ran, fresh, leased, later⟩ := Crew.runs_renew hosts fits [last]
      (fun turn mem => peaceful turn (List.mem_append_left _ mem)) holds.fresh
      (fun _ => holds.leased) (Spaced.of_append spaced)
    have early := later last spaced
    have lasts : s'.now < t' + h.span := Nat.lt_of_le_of_lt (Nat.le_add_right ..) early
    obtain ⟨s'', unlocked, gone⟩ := Crew.unlock_own hosts fresh (leased lasts)
      (peaceful last (List.mem_append_right _ List.mem_cons_self)) early
    exact ⟨_, s'', ran, unlocked, gone⟩

/-- The other thread attempts the lock before a renewal, and goes on after it. -/
def intrusion : Turn Member where
  before := [.pass (20 * Time.second), .act .foreign (.begin (.call .tryLock)), .ask .foreign]
  after := [.act .foreign .resume, .ask .foreign, .pass (5 * Time.second), .act .foreign .resume]

theorem undisturbed_intrusion :
    let s := Crew.nested.run (Step.call .long .tryLock 1)
    let h := Crew.nested.handle .long
    let env := Crew.nested.among .long
    Crew.nested.Holds s .long 0 ∧ ∃ p s',
      h.runs env [.renew, .renew] ⟨s, [intrusion, intrusion, intrusion]⟩ =
        ([.ok true, .ok true], p) ∧
      h.unlock env p = (true, ⟨Crew.nested.others .long s' intrusion.after, []⟩) ∧
      Crew.nested.live s' = none := by
  have fits := Crew.nested.fits_run [.act .long (.begin (.call .tryLock))] .long
  have holds : Crew.nested.Holds (Crew.nested.run (Step.call .long .tryLock 1)) .long 0 :=
    Crew.holds_of_grants fits rfl rfl rfl
  have apart : ∀ x ∈ intrusion.before ++ intrusion.after, Crew.nested.Apart .long x := by
    decide
  have peaceful : Crew.nested.Peaceful .long intrusion :=
    ⟨rfl, fun x mem => apart x (List.mem_append_left _ mem),
      fun x mem => apart x (List.mem_append_right _ mem)⟩
  have kept := undisturbed Crew.nested (by decide) _ .long 0 holds
  obtain ⟨p, s', ran, unlocked, gone⟩ := kept.2.2 [intrusion, intrusion] intrusion
    (by simpa using peaceful) ⟨by decide, by decide, by decide, trivial⟩
  exact ⟨holds, p, s', ran, unlocked, gone⟩

end Turnstile.Lock
