import Mathlib.Data.Fintype.Basic
import Mathlib.Data.List.Induction
import Mathlib.Logic.Function.Basic
import Turnstile.Proofs.Identity.Owner
import Turnstile.Proofs.Lock.Client
import Turnstile.Proofs.Lock.Outcome

/-!
# Many handles on one lock

A `Crew` is a family of handles on one key, whose operations interleave. `Crew.step` moves the
whole `System` by one step : a handle acts on its own, its question reaches the store and is
answered at once, time passes, or someone else uses the store without touching the lock. A
step that is not possible changes nothing, so every list of steps is a run (`Crew.run`).

What a step does is said once for the key (`Crew.live_step`) and once for a handle
(`Crew.client_step`).
-/

namespace Turnstile.Lock

/-- Handles on one key, each obtained from a manager. -/
structure Crew (ι : Type) where
  key : String
  handle : ι → Handle
  key_handle : ∀ i, (handle i).key = key
  obtained : ∀ i, ∃ (m : Manager) (thread : Nat) (serials : SerialCounter) (name : String)
    (settings : Option LockSettings), (m.handle thread serials name settings).1 = .ok (handle i)

/-- What a handle has of its name, its settings and its token. -/
theorem Handle.of_make {name : String} {settings : LockSettings} {token : Token} {h : Handle}
    (made : Handle.make name settings token = .ok h) :
    h.key = keyIn settings.space name ∧ h.token = token ∧ h.lease = settings.lease := by
  unfold Handle.make at made
  split at made
  · cases made
  · split at made
    · cases made
    · obtain rfl := Except.ok.inj made
      exact ⟨rfl, rfl, rfl⟩

/-- A manager makes its handles from its settings, or those given, and a token of its source. -/
theorem Manager.make_of_handle {m : Manager} {thread : Nat} {serials : SerialCounter}
    {name : String} {settings : Option LockSettings} {h : Handle}
    (made : (m.handle thread serials name settings).1 = .ok h) :
    Handle.make name (settings.getD m.settings) (m.source.token thread serials.next.1) =
      .ok h := by
  unfold Manager.handle at made
  dsimp only at made
  split at made
  · cases made
  · next h' ok =>
    obtain rfl := Except.ok.inj made
    exact ok

/-- The token of a handle is one of the manager's source. -/
theorem Manager.token_of_handle {m : Manager} {thread : Nat} {serials : SerialCounter}
    {name : String} {settings : Option LockSettings} {h : Handle}
    (made : (m.handle thread serials name settings).1 = .ok h) :
    h.token = m.source.token thread serials.next.1 :=
  (Handle.of_make (Manager.make_of_handle made)).2.1

/-! ## The system -/

/-- The handles of a crew at work on a store. -/
structure System (ι : Type) where
  now : Nat := 0
  store : Keyspace := {}
  client : ι → Client := fun _ => {}

/-- A step of the system. -/
inductive Step (ι : Type) where
  | act (i : ι) (act : Act)
  /-- The question of a handle reaches the store. -/
  | ask (i : ι)
  | pass (span : Nat)
  /-- Someone else has the store run a request. -/
  | other (r : Request)
deriving DecidableEq, Repr

namespace Crew

variable {ι : Type} (crew : Crew ι)

/-- Whether a request leaves the key of the crew alone : it is for other keys, or only asks who
holds the lock. -/
def spares (r : Request) : Bool :=
  !r.keys.contains crew.key || Command.ofName? r.script.name == some .owner

/-- What is live in the key of the crew. -/
def live (s : System ι) : Option Entry := s.store.live? s.now crew.key

/-- The tokens of a crew are made by sources, so their threads have no colons. -/
theorem colon_notMem_thread (i : ι) : ':' ∉ (crew.handle i).token.thread.toList := by
  obtain ⟨m, thread, serials, name, settings, made⟩ := crew.obtained i
  rw [Manager.token_of_handle made]
  exact m.source.colon_notMem_thread thread _

/-- No two handles have the same token, so no two tokens have the same text. -/
theorem eq_of_text_eq (tokens : Function.Injective fun i => (crew.handle i).token) {i j : ι}
    (same : (crew.handle i).token.text = (crew.handle j).token.text) : i = j :=
  tokens (Token.text_injective (crew.colon_notMem_thread i) (crew.colon_notMem_thread j) same)

/-- Two handles are of different hosts or of different threads. -/
def Foreign (i j : ι) : Prop :=
  (crew.handle i).token.host ≠ (crew.handle j).token.host ∨
    (crew.handle i).token.thread ≠ (crew.handle j).token.thread

instance (i j : ι) : Decidable (crew.Foreign i j) := inferInstanceAs (Decidable (_ ∨ _))

variable {crew} {i j : ι}

theorem Foreign.symm (foreign : crew.Foreign i j) : crew.Foreign j i :=
  foreign.imp Ne.symm Ne.symm

/-- The owner of a handle is told from those of others by its token, if hosts have no colons. -/
theorem Foreign.sameOwner (hosts : ∀ i, ':' ∉ (crew.handle i).token.host.toList)
    (foreign : crew.Foreign i j) :
    (crew.handle i).token.sameOwner (crew.handle j).token.text = false := by
  rw [Bool.eq_false_iff, Ne, Token.sameOwner_text_iff ⟨hosts i, hosts j⟩
    ⟨crew.colon_notMem_thread i, crew.colon_notMem_thread j⟩]
  exact fun same => foreign.elim (· same.1) (· same.2)

/-- Handles of one host and thread have one owner, whatever the host. -/
theorem sameOwner_of_not_foreign (same : ¬crew.Foreign i j) :
    (crew.handle i).token.sameOwner (crew.handle j).token.text = true := by
  obtain ⟨host, thread⟩ := not_or.1 same
  have owner : (crew.handle i).token.owner = (crew.handle j).token.owner := by
    unfold Token.owner
    rw [not_not.1 host, not_not.1 thread]
  unfold Token.sameOwner
  rw [owner]
  exact (crew.handle j).token.sameOwner_text

variable (crew)

variable [DecidableEq ι]

/-- The system after a step, which does nothing where it is not possible. -/
def step (s : System ι) : Step ι → System ι
  | .act i act =>
    { s with client := Function.update s.client i ((s.client i).act (crew.handle i) s.now act) }
  | .ask i =>
    match (s.client i).task with
    | .asking op since stage =>
      let (answer, store) := s.store.eval s.now (stage.request (crew.handle i))
      let client := (s.client i).answer s.now op since stage answer
      { s with store, client := Function.update s.client i client }
    | _ => s
  | .pass span => { s with now := s.now + span }
  | .other r => if crew.spares r then { s with store := (s.store.eval s.now r).2 } else s

/-- The system after a run of steps from an empty store and handles that hold nothing. -/
def run (steps : List (Step ι)) : System ι := steps.foldl crew.step {}

theorem run_append (steps : List (Step ι)) (x : Step ι) :
    crew.run (steps ++ [x]) = crew.step (crew.run steps) x := by
  simp [run]

/-- What holds at the start and is kept by every step holds after every run. -/
theorem run_induction {P : System ι → Prop} (start : P {})
    (step : ∀ s x, P s → P (crew.step s x)) (steps : List (Step ι)) : P (crew.run steps) := by
  induction steps using List.reverseRecOn with
  | nil => exact start
  | append_singleton steps x ih =>
    rw [run_append]
    exact step _ x ih

/-! ## What a step does to the key -/

section Live

variable (s : System ι)

theorem live_act (i : ι) (act : Act) : crew.live (crew.step s (.act i act)) = crew.live s := rfl

theorem live_pass (span : Nat) :
    crew.live (crew.step s (.pass span)) =
      (crew.live s).filter fun e => !e.isExpired (s.now + span) :=
  s.store.live?_later crew.key (Nat.le_add_right s.now span)

theorem live_other (r : Request) : crew.live (crew.step s (.other r)) = crew.live s := by
  unfold step
  dsimp only
  split
  · next spared =>
    rcases Bool.or_eq_true_iff.1 spared with elsewhere | asks
    · exact s.store.live?_eval_of_notMem s.now (by simpa using elsewhere)
    · exact s.store.live?_eval_of_owner s.now (by simpa using asks) crew.key
  · rfl

theorem client_other (r : Request) : (crew.step s (.other r)).client = s.client := by
  unfold step
  dsimp only
  split <;> rfl

/-- Time does not go back. -/
theorem now_le_step (x : Step ι) : s.now ≤ (crew.step s x).now := by
  cases x with
  | act => exact Nat.le_refl _
  | pass span => exact Nat.le_add_right ..
  | ask | other =>
    unfold step
    dsimp only
    split <;> exact Nat.le_refl _

theorem now_ask (i : ι) : (crew.step s (.ask i)).now = s.now := by
  unfold step
  dsimp only
  split <;> rfl

omit [DecidableEq ι] in
/-- A question of a handle that reaches the store has an outcome for the key of the crew. -/
theorem outcome_eval (i : ι) (stage : Stage) :
    let evaluated := s.store.eval s.now (stage.request (crew.handle i))
    Stage.Outcome (crew.handle i) s.now (crew.live s) stage evaluated.1
      (crew.live { s with store := evaluated.2 }) := by
  have outcome := stage.outcome (crew.handle i) s.store s.now
  rwa [crew.key_handle i] at outcome

/-- A handle that asks gets an answer at once, with the outcome for the key that its stage
has. -/
theorem step_ask {i : ι} {op : Op} {since : Nat} {stage : Stage}
    (asking : (s.client i).task = .asking op since stage) :
    ∃ answer, Stage.Outcome (crew.handle i) s.now (crew.live s) stage answer
        (crew.live (crew.step s (.ask i))) ∧
      (crew.step s (.ask i)).client =
        Function.update s.client i ((s.client i).answer s.now op since stage answer) := by
  refine ⟨(s.store.eval s.now (stage.request (crew.handle i))).1, ?_⟩
  simp only [step, asking]
  exact ⟨crew.outcome_eval s i stage, trivial⟩

/-- A handle that does not ask gets no answer. -/
theorem step_ask_of_not {i : ι}
    (quiet : ∀ op since stage, (s.client i).task ≠ .asking op since stage) :
    crew.step s (.ask i) = s := by
  unfold step
  dsimp only
  split
  · next asking => exact absurd asking (quiet _ _ _)
  · rfl

/-- A step leaves the key, lets time pass or is a question with its outcome. -/
theorem live_step (x : Step ι) :
    crew.live (crew.step s x) = crew.live s ∨
      (∃ span, x = .pass span ∧
        crew.live (crew.step s x) = (crew.live s).filter fun e => !e.isExpired (s.now + span)) ∨
      ∃ i op since stage answer, x = .ask i ∧ (s.client i).task = .asking op since stage ∧
        (crew.step s x).client i = (s.client i).answer s.now op since stage answer ∧
        Stage.Outcome (crew.handle i) s.now (crew.live s) stage answer
          (crew.live (crew.step s x)) := by
  cases x with
  | act i a => exact .inl (crew.live_act s i a)
  | pass span => exact .inr (.inl ⟨span, rfl, crew.live_pass s span⟩)
  | other r => exact .inl (crew.live_other s r)
  | ask i =>
    by_cases asking : ∃ op since stage, (s.client i).task = .asking op since stage
    · obtain ⟨op, since, stage, asking⟩ := asking
      obtain ⟨answer, outcome, client⟩ := crew.step_ask s asking
      refine .inr (.inr ⟨i, op, since, stage, answer, rfl, asking, ?_, outcome⟩)
      rw [client, Function.update_self]
    · rw [crew.step_ask_of_not s fun op since stage h => asking ⟨op, since, stage, h⟩]
      exact .inl rfl

/-! ## What a step does to a handle -/

theorem client_act (i : ι) (a : Act) :
    (crew.step s (.act i a)).client i = (s.client i).act (crew.handle i) s.now a :=
  Function.update_self ..

/-- A step leaves a handle, is an act of its own or answers its question. -/
theorem client_step (x : Step ι) (i : ι) :
    (crew.step s x).client i = s.client i ∨
      (∃ a, x = .act i a ∧
        (s.client i).Acted (crew.handle i) s.now a ((crew.step s x).client i)) ∨
      ∃ op since stage answer, x = .ask i ∧ (s.client i).task = .asking op since stage ∧
        Stage.Outcome (crew.handle i) s.now (crew.live s) stage answer (crew.live (crew.step s x)) ∧
        (crew.step s x).client i = (s.client i).answer s.now op since stage answer := by
  cases x with
  | act j a =>
    by_cases same : i = j
    · subst same
      refine .inr (.inl ⟨a, rfl, ?_⟩)
      rw [crew.client_act s]
      exact (s.client i).acted (crew.handle i) s.now a
    · exact .inl (by simp only [step, Function.update_of_ne same])
  | ask j =>
    by_cases asking : ∃ op since stage, (s.client j).task = .asking op since stage
    · obtain ⟨op, since, stage, asking⟩ := asking
      obtain ⟨answer, outcome, client⟩ := crew.step_ask s asking
      by_cases same : i = j
      · subst same
        refine .inr (.inr ⟨op, since, stage, answer, rfl, asking, outcome, ?_⟩)
        rw [client, Function.update_self]
      · exact .inl (by rw [client, Function.update_of_ne same])
    · rw [crew.step_ask_of_not s fun op since stage h => asking ⟨op, since, stage, h⟩]
      exact .inl rfl
  | pass => exact .inl rfl
  | other r => exact .inl (by rw [crew.client_other s r])

theorem fits_step (x : Step ι) {i : ι} (fits : (s.client i).task.Fits (s.client i).hold) :
    ((crew.step s x).client i).task.Fits ((crew.step s x).client i).hold := by
  obtain same | ⟨a, -, acted⟩ | ⟨op, since, stage, answer, -, asking, -, after⟩ :=
    crew.client_step s x i
  · rwa [same]
  · exact acted.fits fits
  · rw [asking] at fits
    rw [after]
    exact fits

end Live

/-- In every run, what a handle holds fits the question it waits for. -/
theorem fits_run (steps : List (Step ι)) (i : ι) :
    ((crew.run steps).client i).task.Fits ((crew.run steps).client i).hold :=
  crew.run_induction (P := fun s => (s.client i).task.Fits (s.client i).hold) trivial
    (fun s x fits => crew.fits_step s x fits) steps

end Crew

/-- A handle of each of two threads of a process. -/
def Crew.twoThreads : Crew Bool where
  key := "distributed_lock:x"
  handle second :=
    { name := "x"
      key := "distributed_lock:x"
      token := TokenSource.token ⟨"h", 1⟩ (1 + second.toNat) (if second then 2 else 1)
      lease := 30 * Time.second
      poll := 10 * Time.millisecond
      wait := 10 * Time.second
      poll_pos := by decide }
  key_handle _ := rfl
  obtained second := by
    refine ⟨{ source := ⟨"h", 1⟩ }, 1 + second.toNat,
      ⟨if second then 1 else 0, SerialCounter.tokenLimit⟩, "x", none, ?_⟩
    cases second <;> rfl

/-- Three handles : two of one thread, with a long and a short lease, and one of another. -/
inductive Member where
  | long
  | short
  | foreign
deriving DecidableEq, Repr

instance : Fintype Member := ⟨{.long, .short, .foreign}, by rintro (_ | _ | _) <;> decide⟩

/-- The number of the thread that a handle is of. -/
def Member.thread : Member → Nat
  | foreign => 2
  | _ => 1

/-- The serial number of a handle's token. -/
def Member.serial : Member → UInt64
  | long => 1
  | short => 2
  | foreign => 3

def Member.lease : Member → Nat
  | short => Time.second
  | _ => 30 * Time.second

/-- The three handles at work on one lock. -/
def Crew.nested : Crew Member where
  key := "distributed_lock:x"
  handle i :=
    { name := "x"
      key := "distributed_lock:x"
      token := TokenSource.token ⟨"h", 1⟩ i.thread i.serial
      lease := i.lease
      poll := 10 * Time.millisecond
      wait := 10 * Time.second
      poll_pos := by decide }
  key_handle _ := rfl
  obtained i := by
    refine ⟨{ source := ⟨"h", 1⟩ }, i.thread, ⟨i.serial - 1, SerialCounter.tokenLimit⟩, "x",
      some { lease := i.lease }, ?_⟩
    cases i <;> rfl

/-- The steps of a call that asks so many questions, with nobody else in between. -/
def Step.call {ι : Type} (i : ι) (call : Call) (questions : Nat) : List (Step ι) :=
  .act i (.begin (.call call)) :: (List.replicate questions [.ask i, .act i .resume]).flatten

end Turnstile.Lock
