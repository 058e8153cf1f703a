import Turnstile.Lock.Wait
import Turnstile.Proofs.Lock.Crew

/-!
# Calls among others

`Handle.run` and `Handle.waitFrom` carry a call and a wait through in one go. In the
surroundings `Crew.among` others act meanwhile : before a question reaches the store, before
its answer is taken in, and while a wait sleeps. What comes of it is what comes of the system,
step by step, with the same result and hold (`Crew.reaches_run`, `Crew.reaches_wait`). The handle
begins nothing else meanwhile. So what holds after every run of the system holds of calls and
waits among others (`Crew.Reaches.run`).
-/

namespace Turnstile.Lock

/-- Whether a step is one of a handle. -/
def Step.isOf {ι : Type} [DecidableEq ι] (i : ι) : Step ι → Bool
  | act j _ => j = i
  | ask j => j = i
  | _ => false

/-- A step begins no operation of a handle but the given one. -/
def Step.BeginsOnly {ι : Type} (i : ι) (op : Op) (x : Step ι) : Prop :=
  ∀ op', x = .act i (.begin op') → op' = op

/-- What others do around a question of a handle. -/
structure Turn (ι : Type) where
  before : List (Step ι) := []
  /-- Why the question does not reach the store, if it does not. -/
  lost : Option String := none
  after : List (Step ι) := []

/-- A system, and what is going to happen around the next questions of a handle. -/
structure Course (ι : Type) where
  system : System ι
  turns : List (Turn ι)

namespace System

variable {ι : Type}

/-- The answer to a question and the store after it, unless the question is lost. -/
def deliver (s : System ι) (lost : Option String) (r : Request) : Answer × Keyspace :=
  match lost with
  | none => s.store.eval s.now r
  | some reason => (.error (.connection reason), s.store)

variable [DecidableEq ι] (s : System ι) (i : ι) (c : Client)

/-- The system in which a handle is in another state. -/
def setClient : System ι := { s with client := Function.update s.client i c }

@[simp] theorem setClient_setClient (c' : Client) :
    (s.setClient i c).setClient i c' = s.setClient i c' := by
  simp [setClient]

@[simp] theorem setClient_client : s.setClient i (s.client i) = s := by
  simp [setClient]

@[simp] theorem client_setClient : (s.setClient i c).client i = c := by
  simp [setClient]

end System

namespace Crew

variable {ι : Type} [DecidableEq ι] (crew : Crew ι)

/-- The system after what others than a handle do. -/
def others (i : ι) (s : System ι) (steps : List (Step ι)) : System ι :=
  (steps.filter fun x => !x.isOf i).foldl crew.step s

theorem others_cons (i : ι) (s : System ι) (x : Step ι) (steps : List (Step ι)) :
    crew.others i s (x :: steps) =
      if x.isOf i then crew.others i s steps else crew.others i (crew.step s x) steps := by
  unfold others
  rw [List.filter_cons]
  cases x.isOf i <;> rfl

/-- The surroundings of a handle, in which others act before and after each of its questions
and while it sleeps. -/
def among (i : ι) : Surroundings (Course ι) where
  ask r p :=
    let turn := p.turns.headD {}
    let s := crew.others i p.system turn.before
    let (answer, store) := s.deliver turn.lost r
    let s := crew.others i { s with store } turn.after
    (answer, s.now - p.system.now, ⟨s, p.turns.tail⟩)
  sleep span p :=
    let turn := p.turns.headD {}
    let s := crew.others i p.system turn.before
    let s := crew.step s (.pass (p.system.now + span - s.now))
    let s := crew.others i s turn.after
    (s.now - (p.system.now + span), ⟨s, p.turns.tail⟩)
  hold p := (p.system.client i).hold
  commit hold _ p := { p with system := p.system.setClient i { p.system.client i with hold } }

/-- A system comes to another one by some steps, in which a handle begins an operation and no
other. -/
def Reaches (i : ι) (op : Op) (s s' : System ι) : Prop :=
  ∃ steps : List (Step ι), (∀ x ∈ steps, x.BeginsOnly i op) ∧ steps.foldl crew.step s = s'

variable {crew}

section Reaches

variable {i : ι} {op : Op} {s t u : System ι}

theorem Reaches.refl (s : System ι) : crew.Reaches i op s s := ⟨[], by simp, rfl⟩

theorem Reaches.trans (first : crew.Reaches i op s t) (then' : crew.Reaches i op t u) :
    crew.Reaches i op s u := by
  obtain ⟨steps, only, rfl⟩ := first
  obtain ⟨steps', only', rfl⟩ := then'
  exact ⟨steps ++ steps', List.forall_mem_append.2 ⟨only, only'⟩, List.foldl_append⟩

theorem Reaches.step (s : System ι) {x : Step ι} (only : x.BeginsOnly i op) :
    crew.Reaches i op s (crew.step s x) :=
  ⟨[x], List.forall_mem_singleton.2 only, rfl⟩

/-- An act of a handle that begins nothing. -/
theorem Reaches.act (s : System ι) {a : Act} (begun : ∀ op', a ≠ .begin op') :
    crew.Reaches i op s (crew.step s (.act i a)) :=
  .step s fun op' same => absurd (Step.act.inj same).2 (begun op')

/-- An operation that a handle begins. -/
theorem Reaches.begin (s : System ι) : crew.Reaches i op s (crew.step s (.act i (.begin op))) :=
  .step s fun _ same => (Act.begin.inj (Step.act.inj same).2).symm

/-- What a run of the system comes to goes on to be that of a run. -/
theorem Reaches.run {steps : List (Step ι)} (reaches : crew.Reaches i op (crew.run steps) s) :
    ∃ more : List (Step ι), (∀ x ∈ more, x.BeginsOnly i op) ∧ crew.run (steps ++ more) = s := by
  obtain ⟨more, only, rfl⟩ := reaches
  exact ⟨more, only, List.foldl_append⟩

end Reaches

/-! ## What a handle does not see of others, nor they of it -/

/-- A step that is not one of a handle leaves the handle. -/
theorem client_step_of_other {s : System ι} {i : ι} {x : Step ι} (other : x.isOf i = false) :
    (crew.step s x).client i = s.client i := by
  obtain same | ⟨a, rfl, -⟩ | ⟨_, _, _, _, rfl, -⟩ := crew.client_step s x i
  · exact same
  all_goals simp [Step.isOf] at other

section SetClient

variable (crew) {s : System ι} {i : ι} {c : Client} {x : Step ι}

/-- What others do does not depend on the state of a handle, and leaves it. -/
theorem step_setClient (other : x.isOf i = false) :
    crew.step (s.setClient i c) x = (crew.step s x).setClient i c := by
  cases x with
  | act j a =>
    have ne : j ≠ i := by simpa [Step.isOf] using other
    simp only [step, System.setClient, Function.update_of_ne ne]
    rw [Function.update_comm ne]
  | ask j =>
    have ne : j ≠ i := by simpa [Step.isOf] using other
    simp only [step, System.setClient, Function.update_of_ne ne]
    split
    · rw [Function.update_comm ne]
    · rfl
  | pass => rfl
  | other r =>
    simp only [step, System.setClient]
    split <;> rfl

variable (s i c) (steps : List (Step ι))

theorem others_setClient :
    crew.others i (s.setClient i c) steps = (crew.others i s steps).setClient i c := by
  induction steps generalizing s with
  | nil => rfl
  | cons x steps ih =>
    rw [others_cons, others_cons]
    split
    · exact ih s
    · next other =>
      rw [step_setClient crew (Bool.eq_false_iff.2 other), ih]

theorem client_others : (crew.others i s steps).client i = s.client i := by
  have same := crew.others_setClient s i (s.client i) steps
  rw [System.setClient_client] at same
  rw [same, System.client_setClient]

theorem now_le_others : s.now ≤ (crew.others i s steps).now := by
  induction steps generalizing s with
  | nil => exact Nat.le_refl _
  | cons x steps ih =>
    rw [others_cons]
    split
    · exact ih s
    · exact Nat.le_trans (crew.now_le_step s x) (ih _)

theorem reaches_others (op : Op) :
    crew.Reaches i op (s.setClient i c) ((crew.others i s steps).setClient i c) := by
  rw [← others_setClient]
  refine ⟨_, fun x mem => ?_, rfl⟩
  rintro op' rfl
  simp [Step.isOf] at mem

theorem step_act_setClient (a : Act) :
    crew.step (s.setClient i c) (.act i a) = s.setClient i (c.act (crew.handle i) s.now a) := by
  simp [step, System.setClient]

/-- A question of a handle that reaches the store. -/
theorem step_ask_setClient {op : Op} {since : Nat} {stage : Stage}
    (asking : c.task = .asking op since stage) :
    crew.step (s.setClient i c) (.ask i) =
      { s with store := (s.store.eval s.now (stage.request (crew.handle i))).2 }.setClient i
        (c.answer s.now op since stage
          (s.store.eval s.now (stage.request (crew.handle i))).1) := by
  simp [step, System.setClient, asking]

/-- A question of a handle reaches the store, or is lost, in one step. -/
theorem reaches_deliver {op : Op} {since : Nat} {stage : Stage}
    (asking : c.task = .asking op since stage) (lost : Option String) :
    let delivered := s.deliver lost (stage.request (crew.handle i))
    ∃ granted, crew.Reaches i op (s.setClient i c)
      (System.setClient { s with store := delivered.2 } i
        { c with task := .answered op since stage delivered.1, granted }) := by
  cases lost with
  | none =>
    have asks : crew.Reaches i op (s.setClient i c) (crew.step _ (.ask i)) :=
      .step _ (by rintro _ ⟨⟩)
    rw [crew.step_ask_setClient s i c asking] at asks
    exact ⟨_, asks⟩
  | some reason =>
    have fails : crew.Reaches i op (s.setClient i c) (crew.step _ (.act i (.fail reason))) :=
      .act _ (by simp)
    rw [step_act_setClient] at fails
    simp only [Client.act, asking] at fails
    exact ⟨_, fails⟩

end SetClient

/-! ## Questions and sleep -/

section Surroundings

variable {i : ι} {p p' : Course ι} {c : Client}

/-- A question among others that is not lost is answered by the store as others have left it
by then, and others go on from what it leaves. -/
theorem ask_among (i : ι) (p : Course ι) (r : Request) (heard : (p.turns.headD {}).lost = none) :
    (crew.among i).ask r p =
      let s := crew.others i p.system (p.turns.headD {}).before
      let s' := crew.others i { s with store := (s.store.eval s.now r).2 }
        (p.turns.headD {}).after
      ((s.store.eval s.now r).1, s'.now - p.system.now, ⟨s', p.turns.tail⟩) := by
  simp only [among, System.deliver, heard]

/-- A question among others is one of the handle, which the store answers or never sees. -/
theorem reaches_ask {op : Op} {since took : Nat} {stage : Stage} {answer : Answer}
    (asked : (crew.among i).ask (stage.request (crew.handle i)) p = (answer, took, p'))
    (asking : c.task = .asking op since stage) :
    (∃ granted, crew.Reaches i op (p.system.setClient i c) (p'.system.setClient i
      { c with task := .answered op since stage answer, granted })) ∧
      p'.system.client i = p.system.client i ∧ p.system.now + took = p'.system.now := by
  unfold among at asked
  dsimp only at asked
  generalize p.turns.headD {} = turn at asked
  obtain ⟨rfl, rfl, rfl⟩ := asked
  have before := crew.now_le_others p.system i turn.before
  have start := crew.reaches_others p.system i c turn.before op
  have client := crew.client_others p.system i turn.before
  generalize crew.others i p.system turn.before = s at before start client ⊢
  obtain ⟨granted, asks⟩ := crew.reaches_deliver s i c asking turn.lost
  generalize s.deliver turn.lost (stage.request (crew.handle i)) = delivered at asks ⊢
  have after := crew.now_le_others { s with store := delivered.2 } i turn.after
  refine ⟨⟨granted, (start.trans asks).trans (reaches_others ..)⟩, ?_, ?_⟩
  · exact (client_others ..).trans client
  · exact Nat.add_sub_cancel' (Nat.le_trans before after)

/-- While a wait sleeps among others, nothing happens to the handle. -/
theorem reaches_sleep {span late : Nat} (slept : (crew.among i).sleep span p = (late, p'))
    (op : Op) :
    crew.Reaches i op (p.system.setClient i c) (p'.system.setClient i c) ∧
      p'.system.client i = p.system.client i ∧
      p.system.now + span + late = p'.system.now := by
  unfold among at slept
  dsimp only at slept
  generalize p.turns.headD {} = turn at slept
  obtain ⟨rfl, rfl⟩ := slept
  have start := crew.reaches_others p.system i c turn.before op
  have client := crew.client_others p.system i turn.before
  generalize crew.others i p.system turn.before = s at start client ⊢
  generalize rest : p.system.now + span - s.now = left
  have passes : crew.Reaches i op (s.setClient i c)
      ((crew.step s (.pass left)).setClient i c) := .step (x := .pass left) _ (by rintro _ ⟨⟩)
  have after : s.now + left ≤ (crew.others i (crew.step s (.pass left)) turn.after).now :=
    crew.now_le_others (crew.step s (.pass left)) i turn.after
  refine ⟨(start.trans passes).trans (reaches_others ..), ?_, ?_⟩
  · exact (client_others ..).trans client
  · dsimp only
    omega

/-! ## Calls and waits -/

/-- From a move of a call on, carrying the call through comes to its result as the handle does
step by step, at the same point of time and with the same hold. -/
theorem reaches_follow {m : Move} {elapsed took : Nat} {r : Except StoreError Bool}
    (followed : (crew.handle i).follow (crew.among i) m elapsed p = (r, took, p')) (c : Client)
    (op : Op) (since : Nat) :
    ∃ c' : Client,
      crew.Reaches i op (p.system.setClient i (c.move (crew.handle i) p.system.now op since m))
        (p'.system.setClient i (c'.settle (crew.handle i) p'.system.now op since r)) ∧
      c'.hold = (p'.system.client i).hold ∧ c'.results = c.results ∧
      p.system.now + took = elapsed + p'.system.now := by
  induction m, elapsed, p using Handle.follow.induct (crew.among i) (crew.handle i)
    generalizing c with
  | case1 m elapsed p result finishes =>
    rw [Handle.follow_of_finish _ _ _ _ finishes] at followed
    obtain ⟨rfl, rfl, rfl⟩ := followed
    refine ⟨{ c with hold := m.hold }, ?_, ?_, rfl, Nat.add_comm ..⟩
    · simp only [Client.move, finishes, among, System.setClient_setClient]
      exact .refl _
    · simp only [among, System.client_setClient]
  | case2 m elapsed p s stage asks answer took' p₂ asked ih =>
    rw [Handle.follow_of_ask _ _ _ _ asks] at followed
    simp only [show (crew.among i).ask (stage.request (crew.handle i))
      ((crew.among i).commit m.hold m.events p) = (answer, took', p₂) from asked] at followed
    let asking : Client := { c with hold := m.hold, task := .asking op since stage }
    obtain ⟨⟨granted, answers⟩, client, time⟩ := reaches_ask (c := asking) asked rfl
    have hold : (crew.among i).hold p₂ = m.hold := by
      simp only [among, client, s, System.client_setClient]
    rw [hold] at ih followed
    let answered : Client :=
      { asking with task := .answered op since stage answer, granted := granted }
    have resumes : crew.Reaches i op (p₂.system.setClient i answered)
        (crew.step _ (.act i .resume)) := .act _ (by simp)
    rw [step_act_setClient] at resumes
    obtain ⟨c', goes, hold', results, time'⟩ := ih followed answered
    refine ⟨c', ?_, hold', results, ?_⟩
    · have moves : s.system.setClient i asking =
          p.system.setClient i (c.move (crew.handle i) p.system.now op since m) := by
        simp only [Client.move, asks, s, among, System.setClient_setClient]
        rfl
      rw [← moves]
      exact (answers.trans resumes).trans goes
    · have same : s.system.now = p.system.now := rfl
      omega

/-- A call that is carried through among others comes to the result, the hold and the point of
time that it comes to step by step. -/
theorem reaches_run {call : Call} {took : Nat} {r : Except StoreError Bool}
    (ran : (crew.handle i).run (crew.among i) call p = (r, took, p'))
    (free : (p.system.client i).task = .free) :
    ∃ c : Client, crew.Reaches i (.call call) p.system (p'.system.setClient i c) ∧
      c.task = .free ∧ c.hold = (p'.system.client i).hold ∧
      c.results = (.call call, r.mapError .store) :: (p.system.client i).results ∧
      p.system.now + took = p'.system.now := by
  obtain ⟨c', goes, hold, results, time⟩ :=
    reaches_follow ran (p.system.client i) (.call call) p.system.now
  have begins : crew.Reaches i (.call call) (p.system.setClient i (p.system.client i)) _ :=
    .begin _
  rw [step_act_setClient, System.setClient_client] at begins
  simp only [Client.act, free] at begins
  have settled : c'.settle (crew.handle i) p'.system.now (.call call) p.system.now r =
      c'.finish (.call call) (r.mapError .store) := by
    rcases r with e | _ | _ <;> rfl
  rw [settled] at goes
  refine ⟨_, begins.trans goes, rfl, hold, ?_, by omega⟩
  rw [← results]
  rfl

/-- An attempt of a wait that is due. -/
theorem reaches_attempt {limit since wake took : Nat} {r : Except StoreError Bool}
    (ran : (crew.handle i).run (crew.among i) .tryLock p = (r, took, p'))
    (asleep : c.task = .asleep limit since wake) (due : wake ≤ p.system.now)
    (same : c.hold = (p.system.client i).hold) :
    ∃ c' : Client,
      crew.Reaches i (.wait limit) (p.system.setClient i c) (p'.system.setClient i
        (c'.settle (crew.handle i) p'.system.now (.wait limit) since r)) ∧
      c'.hold = (p'.system.client i).hold ∧ c'.results = c.results ∧
      p.system.now + took = p'.system.now := by
  obtain ⟨c', goes, hold, results, time⟩ := reaches_follow ran c (.wait limit) since
  have wakes : crew.Reaches i (.wait limit) (p.system.setClient i c)
      (crew.step _ (.act i .wake)) := .act _ (by simp)
  rw [step_act_setClient] at wakes
  simp only [Client.act, asleep, if_pos due, same] at wakes
  exact ⟨c', wakes.trans goes, hold, results, by omega⟩

/-- A wait that is carried through among others comes to the result and the hold that it comes
to step by step, whatever tells that it is cancelled. -/
theorem reaches_waitFrom {isCancelled : Course ι → Bool} {limit elapsed : Nat}
    {r : Except Error Bool}
    (waited : (crew.handle i).waitFrom (crew.among i) isCancelled limit elapsed p = (r, p'))
    {since wake : Nat} (asleep : c.task = .asleep limit since wake)
    (due : wake ≤ p.system.now) (time : since + elapsed = p.system.now)
    (same : c.hold = (p.system.client i).hold) :
    ∃ c' : Client,
      crew.Reaches i (.wait limit) (p.system.setClient i c) (p'.system.setClient i c') ∧
      c'.task = .free ∧ c'.hold = (p'.system.client i).hold ∧
      c'.results = (.wait limit, r) :: c.results := by
  induction elapsed, p using
    Handle.waitFrom.induct (crew.among i) isCancelled (crew.handle i) limit generalizing c wake with
  | case1 elapsed p cancelled =>
    have interrupts : crew.Reaches i (.wait limit) (p.system.setClient i c)
        (crew.step _ (.act i .interrupt)) := .act _ (by simp)
    rw [step_act_setClient] at interrupts
    simp only [Client.act, asleep, if_pos due] at interrupts
    rw [Handle.waitFrom_of_cancelled cancelled] at waited
    obtain ⟨rfl, rfl⟩ := waited
    exact ⟨_, interrupts, rfl, same, rfl⟩
  | case2 elapsed p calm e took p₁ ran =>
    rw [Handle.waitFrom_of_run calm ran (by simp)] at waited
    obtain ⟨rfl, rfl⟩ := waited
    obtain ⟨c', goes, hold, results, -⟩ := reaches_attempt ran asleep due same
    exact ⟨_, goes, rfl, hold, congrArg _ results⟩
  | case3 elapsed p calm took p₁ ran =>
    rw [Handle.waitFrom_of_run calm ran (by simp)] at waited
    obtain ⟨rfl, rfl⟩ := waited
    obtain ⟨c', goes, hold, results, -⟩ := reaches_attempt ran asleep due same
    exact ⟨_, goes, rfl, hold, congrArg _ results⟩
  | case4 elapsed p calm took p₁ ran spent =>
    rename_i ended
    obtain ⟨c', goes, hold, results, later⟩ := reaches_attempt ran asleep due same
    have since_spent : p₁.system.now - since = spent := by omega
    simp only [Client.settle, since_spent, if_pos ended] at goes
    rw [Handle.waitFrom_of_run calm ran fun _ => ended] at waited
    obtain ⟨rfl, rfl⟩ := waited
    exact ⟨_, goes, rfl, hold, congrArg _ results⟩
  | case5 elapsed p calm took p₁ ran spent left pause late p₂ slept =>
    rename_i ih
    obtain ⟨c', goes, hold, results, later⟩ := reaches_attempt ran asleep due same
    have since_spent : p₁.system.now - since = spent := by omega
    simp only [Client.settle, since_spent, if_neg left] at goes
    rw [Handle.waitFrom_of_refused calm ran left] at waited
    change (crew.handle i).waitFrom (crew.among i) isCancelled limit
      (spent + pause + ((crew.among i).sleep pause p₁).1) ((crew.among i).sleep pause p₁).2 =
        (r, p') at waited
    rw [slept] at waited
    let again : Client := { c' with task := .asleep limit since (p₁.system.now + pause) }
    obtain ⟨sleeps, client, woken⟩ := reaches_sleep (c := again) slept (.wait limit)
    obtain ⟨c'', goes', free, hold', results'⟩ :=
      ih (c := again) waited rfl (by omega) (by omega) (by rw [client]; exact hold)
    exact ⟨c'', (goes.trans sleeps).trans goes', free, hold', results'.trans (congrArg _ results)⟩

/-- So does a wait from its beginning, whether it can be cancelled or not. -/
theorem reaches_wait {isCancelled : Course ι → Bool} {limit : Nat} {r : Except Error Bool}
    (waited : (crew.handle i).tryLockInterruptibly (crew.among i) isCancelled limit p = (r, p'))
    (free : (p.system.client i).task = .free) :
    ∃ c : Client, crew.Reaches i (.wait limit) p.system (p'.system.setClient i c) ∧
      c.task = .free ∧ c.hold = (p'.system.client i).hold ∧
      c.results = (.wait limit, r) :: (p.system.client i).results := by
  have begins : crew.Reaches i (.wait limit) (p.system.setClient i (p.system.client i)) _ :=
    .begin _
  rw [step_act_setClient, System.setClient_client] at begins
  simp only [Client.act, free] at begins
  obtain ⟨c, goes, ends⟩ := reaches_waitFrom (c := { p.system.client i with
    task := .asleep limit p.system.now p.system.now }) waited rfl (Nat.le_refl _) rfl rfl
  exact ⟨c, begins.trans goes, ends⟩

end Surroundings

end Crew

end Turnstile.Lock
