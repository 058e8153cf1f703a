import Mathlib.Algebra.Order.Floor.Div
import Turnstile.Lock.Wait

/-!
# The rounds of a wait

A wait attempts its lock in rounds : an attempt that is refused too early, and a sleep for the poll
interval or for what is left of the wait (`Handle.Rounds`). It ends with an attempt after which it
does not sleep, or because it is cancelled (`Handle.Ends`). This is so in all surroundings,
whatever they answer and however long they take over it (`Handle.rounds_waitFrom`).

`wait_schedule` : a wait has no more rounds than poll intervals fit into it, rounded up. It sleeps
only before its end and never past it, and is refused only after it. If no time passes but what it
sleeps, it attempts the lock at the multiples of the poll interval and at its end
(`Handle.instants`).
-/

namespace Turnstile.Lock

variable {σ : Type}

/-- A round of a wait : an attempt that is refused, and a sleep. -/
structure Round (σ : Type) where
  /-- The surroundings when it begins. -/
  before : σ
  /-- How much of the wait is over by then. -/
  start : Nat
  /-- How long the attempt takes. -/
  took : Nat
  /-- How long the wait is to sleep. -/
  pause : Nat
  /-- By how much it sleeps too long. -/
  late : Nat

namespace Handle

variable (env : Surroundings σ) (isCancelled : σ → Bool) (h : Handle) (limit : Nat)

/-- The rounds of a wait, from some of it being over to more of it being over. -/
inductive Rounds : Nat → σ → List (Round σ) → Nat → σ → Prop
  | nil {elapsed : Nat} {s : σ} : Rounds elapsed s [] elapsed s
  | cons {elapsed took pause late elapsed' : Nat} {s s₁ s₂ s' : σ} {rounds : List (Round σ)}
    (ran : h.run env .tryLock s = (.ok false, took, s₁)) (left : elapsed + took < limit)
    (pauses : pause = min h.poll (limit - (elapsed + took)))
    (slept : env.sleep pause s₁ = (late, s₂))
    (rest : Rounds (elapsed + took + pause + late) s₂ rounds elapsed' s') :
    Rounds elapsed s (⟨s, elapsed, took, pause, late⟩ :: rounds) elapsed' s'

/-- How a wait ends after its rounds, and how much of it is over then. -/
inductive Ends (elapsed : Nat) (s : σ) : Except Error Bool → Nat → σ → Prop
  | interrupted (cancelled : isCancelled s = true) :
    Ends elapsed s (.error (.interrupted h.key)) elapsed s
  | attempted {result : Except StoreError Bool} {took : Nat} {s' : σ}
    (calm : isCancelled s = false) (ran : h.run env .tryLock s = (result, took, s'))
    (last : result = .ok false → limit ≤ elapsed + took) :
    Ends elapsed s (result.mapError .store) (elapsed + took) s'

variable {env isCancelled h limit}

theorem Ends.rounds {elapsed elapsed' : Nat} {s s' : σ} {result : Except Error Bool}
    (ends : h.Ends env isCancelled limit elapsed s result elapsed' s') :
    ∃ rounds elapsed₁ s₁ elapsed', h.Rounds env limit elapsed s rounds elapsed₁ s₁ ∧
      (∀ r ∈ rounds, isCancelled r.before = false) ∧
      h.Ends env isCancelled limit elapsed₁ s₁ result elapsed' s' :=
  ⟨[], elapsed, s, elapsed', .nil, by simp, ends⟩

/-- Every wait goes round by round until it ends. -/
theorem rounds_waitFrom {elapsed : Nat} {s s' : σ} {result : Except Error Bool}
    (waited : h.waitFrom env isCancelled limit elapsed s = (result, s')) :
    ∃ rounds elapsed₁ s₁ elapsed', h.Rounds env limit elapsed s rounds elapsed₁ s₁ ∧
      (∀ r ∈ rounds, isCancelled r.before = false) ∧
      h.Ends env isCancelled limit elapsed₁ s₁ result elapsed' s' := by
  induction elapsed, s using waitFrom.induct env isCancelled h limit with
  | case1 elapsed s cancelled =>
    rw [waitFrom_of_cancelled cancelled] at waited
    obtain ⟨rfl, rfl⟩ := waited
    exact (Ends.interrupted cancelled).rounds
  | case2 elapsed s calm e took s₁ ran =>
    rw [waitFrom_of_run calm ran (by simp)] at waited
    obtain ⟨rfl, rfl⟩ := waited
    exact (Ends.attempted (Bool.eq_false_iff.2 calm) ran (by simp)).rounds
  | case3 elapsed s calm took s₁ ran =>
    rw [waitFrom_of_run calm ran (by simp)] at waited
    obtain ⟨rfl, rfl⟩ := waited
    exact (Ends.attempted (Bool.eq_false_iff.2 calm) ran (by simp)).rounds
  | case4 elapsed s calm took s₁ ran spent late =>
    rw [waitFrom_of_run calm ran fun _ => late] at waited
    obtain ⟨rfl, rfl⟩ := waited
    exact (Ends.attempted (Bool.eq_false_iff.2 calm) ran fun _ => late).rounds
  | case5 elapsed s calm took s₁ ran spent left pause late s₂ slept ih =>
    rw [waitFrom_of_refused calm ran left] at waited
    change h.waitFrom env isCancelled limit (spent + pause + (env.sleep pause s₁).1)
      (env.sleep pause s₁).2 = (result, s') at waited
    rw [slept] at waited
    obtain ⟨rounds, elapsed₁, s₃, elapsed', goes, calms, ends⟩ := ih waited
    refine ⟨⟨s, elapsed, took, pause, late⟩ :: rounds, elapsed₁, s₃, elapsed',
      .cons ran (Nat.lt_of_not_le left) rfl slept goes, ?_, ends⟩
    exact List.forall_mem_cons.2 ⟨Bool.eq_false_iff.2 calm, calms⟩

/-! ## Instants -/

variable (h limit)

/-- When attempts are due : at the multiples of the poll interval before the end of a wait, and at
its end. -/
def instants : List Nat := (List.range (limit ⌈/⌉ h.poll)).map (· * h.poll) ++ [limit]

variable {h limit}

theorem lt_ceilDiv_poll_iff {k : Nat} : k < limit ⌈/⌉ h.poll ↔ k * h.poll < limit := by
  rw [Nat.mul_comm]
  exact lt_iff_lt_of_le_iff_le (ceilDiv_le_iff_le_mul h.poll_pos)

theorem mem_instants {t : Nat} :
    t ∈ h.instants limit ↔ (∃ k, k * h.poll < limit ∧ k * h.poll = t) ∨ t = limit := by
  simp only [instants, List.mem_append, List.mem_map, List.mem_range, lt_ceilDiv_poll_iff,
    List.mem_singleton]

/-! ## What rounds keep to -/

namespace Rounds

variable {elapsed elapsed' : Nat} {s s' : σ} {rounds : List (Round σ)}

/-- A wait sleeps only before its end, and never past it. -/
theorem pauses (goes : h.Rounds env limit elapsed s rounds elapsed' s') :
    ∀ r ∈ rounds, r.start + r.took < limit ∧ 0 < r.pause ∧
      r.start + r.took + r.pause ≤ limit := by
  induction goes with
  | nil => simp
  | cons ran left pauses slept rest ih =>
    have := h.poll_pos
    refine List.forall_mem_cons.2 ⟨⟨left, ?_, ?_⟩, ih⟩
    · dsimp only
      omega
    · dsimp only
      omega

/-- All rounds but the last one sleep for the whole poll interval. -/
theorem intervals (goes : h.Rounds env limit elapsed s rounds elapsed' s') :
    rounds = [] ∨ elapsed + (rounds.length - 1) * h.poll < limit := by
  induction goes with
  | nil => exact .inl rfl
  | @cons _ _ _ _ _ _ _ _ _ rounds ran left pauses slept rest ih =>
    refine .inr ?_
    cases rounds with
    | nil =>
      simp only [List.length_singleton]
      omega
    | cons r rounds =>
      -- the wait is not over after the sleep, so this was a whole interval
      have early := ih.resolve_left (List.cons_ne_nil _ _)
      simp only [List.length_cons, Nat.add_sub_cancel, Nat.succ_mul] at early ⊢
      omega

theorem length_le (goes : h.Rounds env limit elapsed s rounds elapsed' s') :
    rounds.length ≤ limit ⌈/⌉ h.poll := by
  rcases goes.intervals with rfl | early
  · exact Nat.zero_le _
  · have := lt_ceilDiv_poll_iff.2 (Nat.lt_of_le_of_lt (Nat.le_add_left ..) early)
    omega

/-- If no time passes but what is slept, rounds begin at multiples of the poll interval. -/
theorem on_time (goes : h.Rounds env limit elapsed s rounds elapsed' s')
    (still : ∀ r ∈ rounds, r.took = 0 ∧ r.late = 0) {k : Nat}
    (due : elapsed = min (k * h.poll) limit) :
    rounds.map Round.start = (List.range' k rounds.length).map (· * h.poll) ∧
      elapsed' = min ((k + rounds.length) * h.poll) limit := by
  induction goes generalizing k with
  | nil => exact ⟨rfl, due⟩
  | cons ran left pauses slept rest ih =>
    obtain ⟨⟨took, late⟩, still⟩ := List.forall_mem_cons.1 still
    dsimp only at took late
    have succ : (k + 1) * h.poll = k * h.poll + h.poll := Nat.succ_mul ..
    obtain ⟨starts, ends⟩ := ih still (k := k + 1) (by omega)
    simp only [List.map_cons, List.length_cons, List.range'_succ, List.cons.injEq]
    refine ⟨⟨by omega, starts⟩, ?_⟩
    rw [ends, Nat.add_right_comm, Nat.add_assoc]

/-- Rounds on time that lead to the end of a wait are as many as intervals begin in it. -/
theorem instants_eq (goes : h.Rounds env limit 0 s rounds elapsed' s')
    (still : ∀ r ∈ rounds, r.took = 0 ∧ r.late = 0) (reached : limit ≤ elapsed') :
    rounds.map Round.start ++ [elapsed'] = h.instants limit ∧ elapsed' = limit := by
  obtain ⟨starts, ends⟩ := goes.on_time still (k := 0) (by simp)
  rw [Nat.zero_add] at ends
  have last : elapsed' = limit := by omega
  have all : rounds.length = limit ⌈/⌉ h.poll := by
    refine Nat.le_antisymm goes.length_le (Nat.le_of_not_lt fun more => ?_)
    have := lt_ceilDiv_poll_iff.1 more
    omega
  rw [starts, all, last, instants, List.range_eq_range']
  exact ⟨rfl, rfl⟩

/-- Where no attempt takes time and no sleep is too long, no round has any of it. -/
theorem still (goes : h.Rounds env limit elapsed s rounds elapsed' s')
    (prompt : ∀ s, (h.run env .tryLock s).2.1 = 0)
    (punctual : ∀ span s, (env.sleep span s).1 = 0) :
    ∀ r ∈ rounds, r.took = 0 ∧ r.late = 0 := by
  induction goes with
  | nil => simp
  | @cons elapsed took pause late elapsed' s s₁ s₂ s' rounds ran left pauses slept rest ih =>
    have quick := prompt s
    have sharp := punctual pause s₁
    rw [ran] at quick
    rw [slept] at sharp
    exact List.forall_mem_cons.2 ⟨⟨quick, sharp⟩, ih⟩

end Rounds

/-- The schedule of a wait that ends with an attempt, where so much of it is over when this begins
and the attempt takes so long. -/
structure OnSchedule (h : Handle) (limit : Nat) (rounds : List (Round σ)) (last took : Nat)
    (result : Except StoreError Bool) : Prop where
  /-- The attempts are no more than the poll intervals of the wait, rounded up, and one. -/
  attempts : rounds.length + 1 ≤ limit ⌈/⌉ h.poll + 1
  /-- A sleep begins before the end of the wait, is not empty and does not go past it. -/
  pauses : ∀ r ∈ rounds, r.start + r.took < limit ∧ 0 < r.pause ∧
    r.start + r.took + r.pause ≤ limit
  /-- A wait is refused only after its end. -/
  refused : result = .ok false → limit ≤ last + took
  /-- A wait that is refused, with no time over but what it sleeps, attempts the lock at its
  instants and nowhere else, and ends at its end. -/
  instants : result = .ok false → took = 0 → (∀ r ∈ rounds, r.took = 0 ∧ r.late = 0) →
    rounds.map Round.start ++ [last] = h.instants limit ∧ last = limit

/-- A wait keeps to its schedule : its rounds, each with a refused attempt and a sleep, lead to an
attempt that ends it with its result. -/
def KeepsSchedule (env : Surroundings σ) (h : Handle) (limit : Nat) (s : σ)
    (result : Except StoreError Bool) (s' : σ) : Prop :=
  ∃ rounds last s₁ took, h.Rounds env limit 0 s rounds last s₁ ∧
    h.run env .tryLock s₁ = (result, took, s') ∧ h.OnSchedule limit rounds last took result

/-- Every wait that cannot be cancelled keeps to its schedule. -/
theorem keepsSchedule (env : Surroundings σ) (h : Handle) (limit : Nat) (s : σ) :
    ∃ result s', h.tryLockFor env limit s = (result.mapError .store, s') ∧
      h.KeepsSchedule env limit s result s' := by
  rcases waited : h.tryLockFor env limit s with ⟨result, s'⟩
  obtain ⟨rounds, last, s₁, _, goes, -, ends⟩ := rounds_waitFrom waited
  cases ends with
  | interrupted cancelled => cases cancelled
  | @attempted result took _ _ ran refused =>
    refine ⟨result, s', rfl, rounds, last, s₁, took, goes, ran,
      Nat.succ_le_succ goes.length_le, goes.pauses, refused, ?_⟩
    rintro no rfl still
    exact goes.instants_eq still (refused no)

end Handle

/-- Every wait ends and keeps to its schedule, in whatever surroundings and however long it may be,
and so does one that is as long as the settings say and ends in a time-out where it is refused.
After some rounds comes an attempt whose result is that of the wait.

- The attempts are at most one more than the poll intervals of the wait, rounded up.
- Each sleep follows a refusal. It begins before the end of the wait, is not empty and is not to go
  past the end. The last attempt is followed by none, whether it fails, succeeds or is refused.
- A wait is refused, or times out, only when all of it is over.
- If no time passes but what is slept, a wait that is refused attempts the lock exactly at the
  multiples of the poll interval that lie before its end, and at its end. -/
theorem wait_schedule {σ : Type} (env : Surroundings σ) (h : Handle) (s : σ) :
    (∀ limit, ∃ result s', h.tryLockFor env limit s = (result.mapError .store, s') ∧
      h.KeepsSchedule env limit s result s') ∧
    ∃ result s', h.lock env s =
        (match result with
          | .error e => .error (.store e)
          | .ok true => .ok ()
          | .ok false => .error (.timeout h.key h.wait), s') ∧
      h.KeepsSchedule env h.wait s result s' := by
  refine ⟨fun limit => h.keepsSchedule env limit s, ?_⟩
  obtain ⟨result, s', waited, keeps⟩ := h.keepsSchedule env h.wait s
  refine ⟨result, s', ?_, keeps⟩
  rw [Handle.lock, waited]
  rcases result with e | _ | _ <;> rfl

/-- Surroundings in which the store says no to every question, at once. -/
def Surroundings.refusing : Surroundings Unit where
  ask _ s := (.ok (.ofBool false), 0, s)
  sleep _ s := (0, s)
  hold _ := .none
  commit _ _ s := s

/-- A handle that waits for two and a half poll intervals. -/
def patient : Handle where
  name := "x"
  key := "distributed_lock:x"
  token := TokenSource.token ⟨"h", 1⟩ 1 1
  lease := 30 * Time.second
  poll := 20 * Time.millisecond
  wait := 50 * Time.millisecond
  poll_pos := by decide

theorem wait_schedule_patient :
    ∃ rounds, patient.Rounds .refusing patient.wait 0 () rounds patient.wait () ∧
      rounds.map Round.start =
        [0, 20 * Time.millisecond, 40 * Time.millisecond] ∧
      patient.lock .refusing () =
        (.error (.timeout "distributed_lock:x" (50 * Time.millisecond)), ()) := by
  have refused (s : Unit) : patient.run .refusing .tryLock s = (.ok false, 0, ()) := by
    rw [Handle.run, Handle.follow_of_ask _ _ _ _ rfl, Handle.follow_of_ask _ _ _ _ rfl,
      Handle.follow_of_finish _ _ _ _ rfl]
    rfl
  obtain ⟨-, result, s', locked, rounds, last, s₁, took, goes, ran, schedule⟩ :=
    wait_schedule .refusing patient ()
  rw [refused] at ran
  obtain ⟨rfl, rfl, rfl⟩ := ran
  obtain ⟨starts, rfl⟩ := schedule.instants rfl rfl
    (goes.still (fun s => by rw [refused]) fun _ _ => rfl)
  exact ⟨rounds, goes, List.append_cancel_right starts, locked⟩

end Turnstile.Lock
