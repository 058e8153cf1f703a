import Turnstile.Lock.Wait

/-!
# A diary of what calls do

What a call does to the store, to its flags and to the log goes through its surroundings.
`Surroundings.recorded` are surroundings that keep a diary of it. A call takes the same course
with the diary as without it, and asks the store at most three times (`Handle.run_recorded`). A wait
takes the same course, too (`Handle.waitFrom_recorded`).
-/

namespace Turnstile.Lock

/-- What is done in surroundings, and what came of it. -/
inductive Deed where
  | asked (request : Request) (answer : Answer) (took : Nat)
  | slept (span late : Nat)
  | committed (hold : Hold) (events : List Event)

/-- Whether a deed is a question to the store. -/
def Deed.isQuestion : Deed → Bool
  | asked .. => true
  | _ => false

variable {σ : Type}

/-- Surroundings with a diary of what is done in them. -/
def Surroundings.recorded (env : Surroundings σ) : Surroundings (σ × List Deed) where
  ask r s :=
    let (answer, took, s') := env.ask r s.1
    (answer, took, s', s.2 ++ [.asked r answer took])
  sleep span s :=
    let (late, s') := env.sleep span s.1
    (late, s', s.2 ++ [.slept span late])
  hold s := env.hold s.1
  commit hold events s := (env.commit hold events s.1, s.2 ++ [.committed hold events])

namespace Handle

variable (env : Surroundings σ) (h : Handle)

theorem follow_recorded (m : Move) (elapsed : Nat) (s : σ) (deeds : List Deed) :
    ∃ more, h.follow env.recorded m elapsed (s, deeds) =
        (let done := h.follow env m elapsed s
        (done.1, done.2.1, done.2.2, deeds ++ more)) ∧
      more.countP Deed.isQuestion ≤ m.next.questions := by
  induction m, elapsed, s using follow.induct env h generalizing deeds with
  | case1 m elapsed s result finishes =>
    refine ⟨[.committed m.hold m.events], ?_, Nat.zero_le _⟩
    rw [follow_of_finish _ _ _ _ finishes, follow_of_finish _ _ _ _ finishes]
    rfl
  | case2 m elapsed s s₁ stage asks answer took s₂ ask ih =>
    change env.ask (stage.request h) (env.commit m.hold m.events s) = (answer, took, s₂) at ask
    obtain ⟨more, goes, few⟩ := ih (deeds ++ [.committed m.hold m.events] ++
      [.asked (stage.request h) answer took])
    refine ⟨.committed m.hold m.events :: .asked (stage.request h) answer took :: more, ?_, ?_⟩
    · rw [follow_of_ask _ _ _ _ asks, follow_of_ask _ _ _ _ asks]
      simp only [Surroundings.recorded, ask] at goes ⊢
      simpa using goes
    · have later := stage.questions_resume (env.hold s₂) answer
      rw [asks, List.countP_cons_of_neg (by simp [Deed.isQuestion]), List.countP_cons_of_pos rfl]
      exact Nat.succ_le_succ (Nat.le_trans few later)

/-- A call does the same with a diary as without one, and asks at most three questions. -/
theorem run_recorded (call : Call) (s : σ) :
    ∃ deeds, h.run env.recorded call (s, []) =
        (let done := h.run env call s
        (done.1, done.2.1, done.2.2, deeds)) ∧
      deeds.countP Deed.isQuestion ≤ 3 := by
  obtain ⟨deeds, goes, few⟩ := h.follow_recorded env (call.start (env.hold s)) 0 s []
  exact ⟨deeds, goes, Nat.le_trans few (call.questions_start _)⟩

/-- A call goes on with a diary that has been begun. -/
theorem run_recorded_append {env : Surroundings σ} {h : Handle} {call : Call} {s s' : σ}
    {result : Except StoreError Bool} {took : Nat} (ran : h.run env call s = (result, took, s'))
    (deeds : List Deed) :
    ∃ more, h.run env.recorded call (s, deeds) = (result, took, s', deeds ++ more) := by
  obtain ⟨more, goes, -⟩ := h.follow_recorded env (call.start (env.hold s)) 0 s deeds
  refine ⟨more, goes.trans ?_⟩
  rw [show h.follow env (call.start (env.hold s)) 0 s = (result, took, s') from ran]

/-- A wait does the same with a diary as without one. -/
theorem waitFrom_recorded (isCancelled : σ → Bool) (limit elapsed : Nat) (s : σ)
    (deeds : List Deed) :
    ∃ more, h.waitFrom env.recorded (fun p => isCancelled p.1) limit elapsed (s, deeds) =
      (let done := h.waitFrom env isCancelled limit elapsed s
      (done.1, done.2, deeds ++ more)) := by
  let looked : σ × List Deed → Bool := fun p => isCancelled p.1
  induction elapsed, s using waitFrom.induct env isCancelled h limit generalizing deeds with
  | case1 elapsed s cancelled =>
    have cancelled' : looked (s, deeds) = true := cancelled
    refine ⟨[], ?_⟩
    rw [waitFrom_of_cancelled cancelled, waitFrom_of_cancelled cancelled', List.append_nil]
  | case2 elapsed s calm e took s₁ ran | case3 elapsed s calm took s₁ ran =>
    have calm' : ¬looked (s, deeds) = true := calm
    obtain ⟨more, ran'⟩ := run_recorded_append ran deeds
    refine ⟨more, ?_⟩
    rw [waitFrom_of_run calm ran (by simp), waitFrom_of_run calm' ran' (by simp)]
  | case4 elapsed s calm took s₁ ran spent late =>
    have calm' : ¬looked (s, deeds) = true := calm
    obtain ⟨more, ran'⟩ := run_recorded_append ran deeds
    refine ⟨more, ?_⟩
    rw [waitFrom_of_run calm ran fun _ => late, waitFrom_of_run calm' ran' fun _ => late]
  | case5 elapsed s calm took s₁ ran spent left pause late s₂ slept ih =>
    have calm' : ¬looked (s, deeds) = true := calm
    change env.sleep pause s₁ = (late, s₂) at slept
    obtain ⟨more, ran'⟩ := run_recorded_append ran deeds
    obtain ⟨more', goes⟩ := ih (deeds ++ more ++ [.slept pause late])
    have slept' : env.recorded.sleep pause (s₁, deeds ++ more) =
        (late, s₂, deeds ++ more ++ [.slept pause late]) := by
      simp only [Surroundings.recorded, slept]
    have again : h.waitFrom env isCancelled limit elapsed s =
        h.waitFrom env isCancelled limit (spent + pause + (env.sleep pause s₁).1)
          (env.sleep pause s₁).2 := waitFrom_of_refused calm ran left
    have again' : h.waitFrom env.recorded looked limit elapsed (s, deeds) =
        h.waitFrom env.recorded looked limit
          (spent + pause + (env.recorded.sleep pause (s₁, deeds ++ more)).1)
          (env.recorded.sleep pause (s₁, deeds ++ more)).2 := waitFrom_of_refused calm' ran' left
    rw [slept] at again
    rw [slept'] at again'
    refine ⟨more ++ .slept pause late :: more', again'.trans (goes.trans ?_)⟩
    rw [again]
    simp

end Handle

end Turnstile.Lock
