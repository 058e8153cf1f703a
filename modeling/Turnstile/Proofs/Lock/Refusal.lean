import Mathlib.Data.List.Infix
import Turnstile.Proofs.Lock.Expiry
import Turnstile.Proofs.Lock.Unlock

/-!
# What a refusal tells

An attempt that is refused asked twice : the key was taken when it asked to take it, and was
absent or held a token of another owner when it asked to enter it. Others may act between the
two questions. `refusal_cause` : so the key was held elsewhere when one of them was asked,
unless a token of the same thread was in the key first and nothing was left of it at the second
question. Then the attempt is refused although nobody else ever held the lock
(`refusal_between`).

A moment of a run is a prefix of it. The invariant (`Crew.Traced`) keeps, for a handle that has
come so far with an attempt, at which moments its questions reached the store.
-/

namespace Turnstile.Lock

/-! ## Refused attempts -/

/-- Whether an operation is at a question, asked or answered. -/
def Task.isQuestion : Task → Bool
  | asking .. => true
  | answered .. => true
  | _ => false

/-- A handle asks to enter the key again after it was not free to take. -/
theorem Stage.resume_enters {stage : Stage} {hold : Hold} {answer : Answer}
    (asks : (stage.resume hold answer).next = .ask .reentering) :
    stage = .acquiring ∧ ∃ reply, answer = .ok reply ∧ reply.isYes = false := by
  revert asks
  fun_cases Stage.resume <;> simp_all

/-- No call begins by asking to enter the key again. -/
theorem Call.start_enters (call : Call) (hold : Hold) :
    (call.start hold).next ≠ .ask .reentering := by
  fun_cases Call.start <;> simp

/-- An attempt is refused by the answer to its last question. -/
theorem Stage.resume_refuses {stage : Stage} {hold : Hold} {answer : Answer}
    (attempt : stage.call = .tryLock)
    (refuses : (stage.resume hold answer).next = .finish (.ok false)) :
    stage = .reentering ∧ ∃ reply, answer = .ok reply ∧ reply.isYes = false := by
  revert refuses
  fun_cases Stage.resume <;> simp_all [Stage.call]

/-- No attempt ends before its first question. -/
theorem Call.start_tryLock_asks (hold : Hold) {result : Except StoreError Bool} :
    (tryLock.start hold).next ≠ .finish result := by
  by_cases fresh : hold.isFresh = true <;> simp [start, fresh]

namespace Client

variable {h : Handle} {now : Nat} {c c' : Client} {a : Act} {op : Op} {since : Nat}

/-- A move that ends an operation with a refusal is a refusal. -/
theorem move_refuses {op' : Op} {m : Move}
    (refused : (c.move h now op since m).results = (op', .ok false) :: c.results) :
    op = op' ∧ m.next = .finish (.ok false) := by
  unfold move at refused
  split at refused
  · exact absurd refused.symm (List.cons_ne_self _ _)
  · next result finishes =>
    unfold settle at refused
    split at refused
    · cases (Prod.mk.inj (List.cons.inj refused).1).2
    · cases (Prod.mk.inj (List.cons.inj refused).1).2
    · refine ⟨?_, finishes⟩
      split at refused
      · exact (Prod.mk.inj (List.cons.inj refused).1).1
      · split at refused
        · exact (Prod.mk.inj (List.cons.inj refused).1).1
        · exact absurd refused.symm (List.cons_ne_self _ _)

/-- An attempt ends with a refusal by taking in the answer to its last question. -/
theorem Acted.refused (acted : Acted h now c a c') (fits : c.task.Fits c.hold)
    (attempt : op.attempt = .tryLock) (ends : c'.results = (op, .ok false) :: c.results) :
    ∃ since reply, c.task = .answered op since .reentering (.ok reply) ∧
      reply.isYes = false := by
  cases acted with
  | idle | waited | failed => exact absurd ends.symm (List.cons_ne_self _ _)
  | called =>
    obtain ⟨rfl, refuses⟩ := move_refuses ends
    obtain rfl : _ = Call.tryLock := attempt
    exact absurd refuses (Call.start_tryLock_asks _)
  | woken => exact absurd (move_refuses ends).2 (Call.start_tryLock_asks _)
  | interrupted => cases (Prod.mk.inj (List.cons.inj ends).1).2
  | resumed answered =>
    obtain ⟨rfl, refuses⟩ := move_refuses ends
    rw [answered] at fits
    obtain ⟨rfl, reply, rfl, no⟩ := Stage.resume_refuses (fits.2.trans attempt) refuses
    exact ⟨_, reply, answered, no⟩

/-- A handle comes to ask to enter the key by taking in that it was not free to take. -/
theorem Acted.enters (acted : Acted h now c a c')
    (asking : c'.task = .asking op since .reentering) :
    c.task = .asking op since .reentering ∨
      ∃ reply, c.task = .answered op since .acquiring (.ok reply) ∧ reply.isYes = false := by
  have moved {op' : Op} {since' : Nat} {m : Move}
      (asking : (c.move h now op' since' m).task = .asking op since .reentering) :
      op' = op ∧ since' = since ∧ m.next = .ask .reentering := by
    obtain ⟨stage, asks, task⟩ | task | ⟨_, _, task⟩ := task_move h now op' since' c m
    · cases asking.symm.trans task
      exact ⟨rfl, rfl, asks⟩
    · cases asking.symm.trans task
    · cases asking.symm.trans task
  cases acted with
  | idle => exact .inl asking
  | called | woken => exact absurd (moved asking).2.2 (Call.start_enters _ _)
  | waited | failed | interrupted => cases asking
  | resumed answered =>
    obtain ⟨rfl, rfl, asks⟩ := moved asking
    obtain ⟨rfl, reply, rfl, no⟩ := Stage.resume_enters asks
    exact .inr ⟨reply, answered, no⟩

end Client

/-! ## Moments of a run -/

namespace Crew

variable {ι : Type} [DecidableEq ι] (crew : Crew ι) (i : ι)

/-- From some moment of a run on, a handle is at its questions. -/
def BusySince (first steps : List (Step ι)) : Prop :=
  ∀ mid, first <+: mid → mid <+: steps → ((crew.run mid).client i).task.isQuestion = true

/-- The question of a handle reached the store at some moment of a run. -/
def AsksAt (moment steps : List (Step ι)) : Prop := moment ++ [.ask i] <+: steps

/-- A handle found the key taken at some moment, and is at its questions since then. -/
structure FoundTaken (steps first : List (Step ι)) : Prop where
  asks : AsksAt i first steps
  busy : crew.BusySince i first steps
  live : ∃ e, crew.live (crew.run first) = some e

/-- After a handle found the key taken at one moment, it found nothing of its owner there at
another one, and is at its questions since the first. -/
structure FoundForeign (steps first second : List (Step ι)) : Prop where
  taken : crew.FoundTaken i second first
  asks : AsksAt i second steps
  busy : crew.BusySince i first steps
  foreign : ∀ stored t, crew.live (crew.run second) = some ⟨.text stored, t⟩ →
    (crew.handle i).token.sameOwner stored = false

/-- An attempt that has come so far asked its questions at some moments. -/
structure Traced (steps : List (Step ι)) : Prop where
  taken : ∀ op since reply,
    ((crew.run steps).client i).task = .answered op since .acquiring (.ok reply) →
    reply.isYes = false → ∃ first, crew.FoundTaken i steps first
  entering : ∀ op since, ((crew.run steps).client i).task = .asking op since .reentering →
    ∃ first, crew.FoundTaken i steps first
  refused : ∀ op since reply,
    ((crew.run steps).client i).task = .answered op since .reentering (.ok reply) →
    reply.isYes = false → ∃ first second, crew.FoundForeign i steps first second

variable {crew} {i} {steps first second : List (Step ι)} {x : Step ι}

omit [DecidableEq ι] in
theorem AsksAt.append (asks : AsksAt i first steps) (x : Step ι) :
    AsksAt i first (steps ++ [x]) :=
  asks.trans (List.prefix_append ..)

theorem BusySince.append (busy : crew.BusySince i first steps)
    (now : ((crew.run (steps ++ [x])).client i).task.isQuestion = true) :
    crew.BusySince i first (steps ++ [x]) := by
  intro mid later before
  rcases List.prefix_concat_iff.1 before with rfl | before
  · exact now
  · exact busy mid later before

theorem FoundTaken.append (found : crew.FoundTaken i steps first)
    (now : ((crew.run (steps ++ [x])).client i).task.isQuestion = true) :
    crew.FoundTaken i (steps ++ [x]) first :=
  ⟨found.asks.append x, found.busy.append now, found.live⟩

theorem FoundForeign.append (found : crew.FoundForeign i steps first second)
    (now : ((crew.run (steps ++ [x])).client i).task.isQuestion = true) :
    crew.FoundForeign i (steps ++ [x]) first second :=
  ⟨found.taken, found.asks.append x, found.busy.append now, found.foreign⟩

/-- An answer is there from before, or a question has just reached the store. -/
theorem answered_before {s : System ι} {op : Op} {since : Nat} {stage : Stage} {reply : Reply}
    (answered : ((crew.step s x).client i).task = .answered op since stage (.ok reply)) :
    (s.client i).task = .answered op since stage (.ok reply) ∨
      x = .ask i ∧ (s.client i).task = .asking op since stage ∧
        Stage.Outcome (crew.handle i) s.now (crew.live s) stage (.ok reply)
          (crew.live (crew.step s x)) := by
  obtain same | ⟨a, -, acted⟩ | ⟨_, _, _, _, rfl, asking, outcome, after⟩ := crew.client_step s x i
  · exact .inl (same ▸ answered)
  · exact .inl (acted.answered answered)
  · rw [after] at answered
    cases answered
    exact .inr ⟨rfl, asking, outcome⟩

/-- A handle asks to enter the key from before on, or since it took in that the key is taken. -/
theorem entering_before {s : System ι} {op : Op} {since : Nat}
    (asking : ((crew.step s x).client i).task = .asking op since .reentering) :
    (s.client i).task = .asking op since .reentering ∨
      ∃ reply, (s.client i).task = .answered op since .acquiring (.ok reply) ∧
        reply.isYes = false := by
  obtain same | ⟨a, -, acted⟩ | ⟨_, _, _, _, -, -, -, after⟩ := crew.client_step s x i
  · exact .inl (same ▸ asking)
  · exact acted.enters asking
  · rw [after] at asking
    cases asking

/-- A step of a run keeps track of the questions of an attempt. -/
theorem Traced.append (traced : crew.Traced i steps) (x : Step ι) :
    crew.Traced i (steps ++ [x]) where
  taken := by
    intro op since reply answered no
    have now : ((crew.run (steps ++ [x])).client i).task.isQuestion = true := by
      rw [answered]
      rfl
    rw [run_append] at answered
    rcases answered_before answered with before | ⟨rfl, asking, outcome⟩
    · obtain ⟨first, found⟩ := traced.taken op since reply before no
      exact ⟨first, found.append now⟩
    · -- the question has just been asked, so the handle is at it before this step and after it
      refine ⟨steps, List.prefix_refl _, ?_, outcome.live_of_no no⟩
      intro mid later before
      rcases List.prefix_concat_iff.1 before with rfl | before
      · exact now
      · obtain rfl := later.eq_of_length_le before.length_le
        rw [asking]
        rfl
  entering := by
    intro op since asking
    have now : ((crew.run (steps ++ [x])).client i).task.isQuestion = true := by
      rw [asking]
      rfl
    rw [run_append] at asking
    rcases entering_before asking with before | ⟨reply, answered, no⟩
    · obtain ⟨first, found⟩ := traced.entering op since before
      exact ⟨first, found.append now⟩
    · obtain ⟨first, found⟩ := traced.taken op since reply answered no
      exact ⟨first, found.append now⟩
  refused := by
    intro op since reply answered no
    have now : ((crew.run (steps ++ [x])).client i).task.isQuestion = true := by
      rw [answered]
      rfl
    rw [run_append] at answered
    rcases answered_before answered with before | ⟨rfl, asking, outcome⟩
    · obtain ⟨first, second, found⟩ := traced.refused op since reply before no
      exact ⟨first, second, found.append now⟩
    · obtain ⟨first, found⟩ := traced.entering op since asking
      refine ⟨first, steps, found, List.prefix_refl _, found.busy.append now, ?_⟩
      intro stored t live
      rw [live] at outcome
      exact outcome.foreign_of_no (by simp) no

theorem traced_run (i : ι) (steps : List (Step ι)) : crew.Traced i steps := by
  induction steps using List.reverseRecOn with
  | nil => constructor <;> intros <;> contradiction
  | append_singleton steps x ih => exact ih.append x

/-! ## Whose token was in the key -/

variable (crew) in
/-- The key holds the token of a handle of another host or thread. -/
def Elsewhere (s : System ι) (i : ι) : Prop := ∃ j, crew.InKey s j ∧ crew.Foreign i j

instance [Fintype ι] (s : System ι) (i : ι) : Decidable (crew.Elsewhere s i) :=
  inferInstanceAs (Decidable (∃ _, _))

/-- What is live in the key in a run is the token of a handle. -/
theorem inKey_of_live {e : Entry} (live : crew.live (crew.run steps) = some e) :
    ∃ j, crew.InKey (crew.run steps) j := by
  obtain ⟨j, _, _, rfl, -⟩ := crew.leased_run steps e live
  exact ⟨j, _, live⟩

/-- If nothing of the owner of a handle is in the key in a run, then it is absent or held
elsewhere. -/
theorem FoundForeign.elsewhere (found : crew.FoundForeign i steps first second) :
    crew.live (crew.run second) = none ∨ crew.Elsewhere (crew.run second) i := by
  cases live : crew.live (crew.run second) with
  | none => exact .inl rfl
  | some e =>
    obtain ⟨j, expiry, inKey⟩ := inKey_of_live live
    refine .inr ⟨j, ⟨expiry, inKey⟩, ?_⟩
    by_contra same
    have other := found.foreign _ _ inKey
    rw [crew.sameOwner_of_not_foreign same] at other
    cases other

end Crew

/-- Why an attempt is refused. Let an attempt of a handle, or a wait, end with a refusal in a
run of a crew, whatever the others do between its questions. Then it asked to take the key at
one moment and to enter it at a later one, was at its questions from the first on, and at one of
the two moments the key held the token of another host or thread, unless it held a token of the
same host and thread at the first and nothing at the second. -/
theorem refusal_cause {ι : Type} [DecidableEq ι] (crew : Crew ι) (steps : List (Step ι))
    (x : Step ι) (i : ι) (op : Op) (attempt : op.attempt = .tryLock) :
    let s := crew.run steps
    ((crew.step s x).client i).results = (op, .ok false) :: (s.client i).results →
      ∃ first second, Crew.AsksAt i first second ∧ Crew.AsksAt i second steps ∧
        crew.BusySince i first steps ∧
        (crew.Elsewhere (crew.run first) i ∨ crew.Elsewhere (crew.run second) i ∨
          (∃ j, crew.InKey (crew.run first) j ∧ ¬crew.Foreign i j) ∧
            crew.live (crew.run second) = none) := by
  intro s ends
  obtain same | ⟨a, -, acted⟩ | ⟨_, _, _, _, -, -, -, client⟩ := crew.client_step s x i
  · exact absurd (ends.symm.trans (congrArg _ same)) (List.cons_ne_self _ _)
  · obtain ⟨since, reply, answered, no⟩ := acted.refused (crew.fits_run steps i) attempt ends
    obtain ⟨first, second, found⟩ := (crew.traced_run i steps).refused op since reply answered no
    refine ⟨first, second, found.taken.asks, found.asks, found.busy, ?_⟩
    obtain ⟨e, live⟩ := found.taken.live
    obtain ⟨j, inKey⟩ := Crew.inKey_of_live live
    by_cases foreign : crew.Foreign i j
    · exact .inl ⟨j, inKey, foreign⟩
    · rcases found.elsewhere with absent | elsewhere
      · exact .inr (.inr ⟨⟨j, inKey, foreign⟩, absent⟩)
      · exact .inr (.inl elsewhere)
  · exact absurd (ends.symm.trans (congrArg _ client)) (List.cons_ne_self _ _)

/-- A handle takes the lock for a second, and another one of its thread is about to enter it
when the second is over. -/
def lapseBetween : List (Step Member) :=
  Step.call .short .tryLock 1 ++ [.pass (999 * Time.millisecond),
    .act .long (.begin (.call .tryLock)), .ask .long, .act .long .resume, .pass Time.millisecond,
    .ask .long]

/-- The attempt is refused. -/
theorem refused_lapseBetween :
    let s := Crew.nested.run lapseBetween
    let s' := Crew.nested.step s (.act .long .resume)
    (s'.client .long).results = (.call .tryLock, .ok false) :: (s.client .long).results := by
  intro s s'
  have before : (s.client .long).results = [] := by rfl
  have after : (s'.client .long).results = [(.call .tryLock, .ok false)] := by rfl
  rw [before, after]

/-- No other thread ever held the lock. -/
theorem not_elsewhere_lapseBetween {moment : List (Step Member)}
    (before : moment <+: lapseBetween) :
    ¬Crew.nested.Elsewhere (Crew.nested.run moment) .long := by
  have all : ∀ moment ∈ lapseBetween.inits,
      ¬Crew.nested.Elsewhere (Crew.nested.run moment) .long := by
    decide
  exact all moment ((List.mem_inits _ _).2 before)

theorem refusal_between :
    let s := Crew.nested.run lapseBetween
    let s' := Crew.nested.step s (.act .long .resume)
    (s'.client .long).results = (.call .tryLock, .ok false) :: (s.client .long).results ∧
      ∀ moment, moment <+: lapseBetween →
        ¬Crew.nested.Elsewhere (Crew.nested.run moment) .long :=
  ⟨refused_lapseBetween, fun _ => not_elsewhere_lapseBetween⟩

theorem refusal_cause_lapseBetween :
    ∃ first second, Crew.AsksAt Member.long first second ∧
      Crew.AsksAt Member.long second lapseBetween ∧
      (∃ j, Crew.nested.InKey (Crew.nested.run first) j ∧ ¬Crew.nested.Foreign .long j) ∧
      Crew.nested.live (Crew.nested.run second) = none := by
  obtain ⟨first, second, asks, asks', -, cause⟩ :=
    refusal_cause Crew.nested lapseBetween (.act .long .resume) .long (.call .tryLock) rfl
      refused_lapseBetween
  have start' : second <+: lapseBetween := (List.prefix_append ..).trans asks'
  have start : first <+: lapseBetween := ((List.prefix_append ..).trans asks).trans start'
  rcases cause with elsewhere | elsewhere | lapsed
  · exact absurd elsewhere (not_elsewhere_lapseBetween start)
  · exact absurd elsewhere (not_elsewhere_lapseBetween start')
  · exact ⟨first, second, asks, asks', lapsed⟩

end Turnstile.Lock
