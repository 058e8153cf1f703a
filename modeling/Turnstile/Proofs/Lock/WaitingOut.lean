import Turnstile.Proofs.Lock.Attempt
import Turnstile.Proofs.Lock.Schedule

/-!
# Waiting out a lock that is left behind

A lock that nobody gives up or renews is free when its lease is over. A handle of another owner that
waits for it, with nobody else about and no time lost, is refused at every instant of its wait
before that and takes the lock at the first one from then on (`Crew.Awaits`). `waits_out` : so it
gets the lock exactly if the lease is over by the end of its wait, and else leaves it as it was.
-/

namespace Turnstile.Lock

namespace Handle.Rounds

variable {σ : Type} {env : Surroundings σ} {h : Handle} {limit elapsed : Nat} {s s' : σ}
  {rounds : List (Round σ)}

/-- Rounds on time that begin before some point, and lead to it or beyond, lead to the first instant
from there on. -/
theorem isLeast_instants (goes : h.Rounds env limit 0 s rounds elapsed s')
    (still : ∀ r ∈ rounds, r.took = 0 ∧ r.late = 0) {point : Nat}
    (early : ∀ r ∈ rounds, r.start < point) (reached : point ≤ elapsed) :
    IsLeast {t | t ∈ h.instants limit ∧ point ≤ t} elapsed := by
  obtain ⟨starts, ends⟩ := goes.on_time still (k := 0) (by simp)
  rw [Nat.zero_add] at ends
  refine ⟨⟨?instant, reached⟩, ?least⟩
  case instant =>
    by_cases before : rounds.length * h.poll < limit
    · exact mem_instants.2 (.inl ⟨rounds.length, before, by omega⟩)
    · exact mem_instants.2 (.inr (by omega))
  case least =>
    rintro t ⟨instant, later⟩
    rcases mem_instants.1 instant with ⟨k, -, rfl⟩ | rfl
    · have le : rounds.length ≤ k := by
        refine Nat.le_of_not_lt fun lt => ?_
        -- an earlier multiple is the start of a round
        have begun : k * h.poll ∈ rounds.map Round.start := by
          rw [starts]
          exact List.mem_map.2 ⟨k, by simpa using lt, rfl⟩
        obtain ⟨r, mem, start⟩ := List.mem_map.1 begun
        exact Nat.not_lt_of_le later (start ▸ early r mem)
      rw [ends]
      exact Nat.le_trans (Nat.min_le_left ..) (Nat.mul_le_mul_right _ le)
    · rw [ends]
      exact Nat.min_le_right ..

end Handle.Rounds

namespace Crew

variable {ι : Type} [DecidableEq ι] (crew : Crew ι) {i j : ι}

/-- A sleep with nobody else about is as long as it should be. -/
theorem sleep_among_nil (i : ι) (s : System ι) (span : Nat) :
    (crew.among i).sleep span ⟨s, []⟩ = (0, ⟨crew.step s (.pass span), []⟩) := by
  have whole : s.now + span - s.now = span := Nat.add_sub_cancel_left ..
  have sharp : (crew.step s (.pass span)).now - (s.now + span) = 0 := Nat.sub_self _
  simp [among, others, whole, sharp]

/-- A handle that holds nothing waits alone for a lock that another one has left behind. The wait
began at `start` and has gone on for `elapsed`. The lease of the lock ends `left` after `start`. -/
structure Awaits (i j : ι) (start left elapsed : Nat) (p : Course ι) : Prop where
  alone : p.turns = []
  now : p.system.now = start + elapsed
  unheld : (p.system.client i).hold.held = false
  live : crew.live p.system =
    if elapsed < left then some ⟨.text (crew.handle j).token.text, some (start + left)⟩ else none

namespace Awaits

variable {crew} {start left elapsed limit : Nat} {p : Course ι}

/-- A sleep brings the end of the lease closer. -/
theorem sleep (awaits : crew.Awaits i j start left elapsed p) (span : Nat) :
    ∃ p', (crew.among i).sleep span p = (0, p') ∧
      crew.Awaits i j start left (elapsed + span) p' := by
  obtain ⟨s, _⟩ := p
  obtain ⟨rfl, now, unheld, live⟩ := awaits
  refine ⟨_, crew.sleep_among_nil i s span, rfl, ?_, unheld, ?_⟩
  · dsimp only at now
    simp only [step]
    omega
  · dsimp only at now live
    rw [live_pass, live, now, Nat.add_assoc]
    by_cases runs : elapsed + span < left
    · have early : elapsed < left := by omega
      simp [Entry.isExpired, runs, early]
    · have ended : left ≤ elapsed + span := by omega
      by_cases early : elapsed < left <;> simp [Entry.isExpired, runs, early, ended]

variable (fits : (crew.handle i).leaseMillis ≤ 9223372036854775807)

include fits

/-- An attempt after the end of the lease takes the lock. -/
theorem taken (awaits : crew.Awaits i j start left elapsed p) (late : left ≤ elapsed) :
    ∃ s', (crew.handle i).run (crew.among i) .tryLock p = (.ok true, 0, ⟨s', []⟩) ∧
      s'.now = start + elapsed ∧ (s'.client i).hold = .fresh ∧
      crew.live s' = some ⟨.text (crew.handle i).token.text,
        some (s'.now + (crew.handle i).span)⟩ := by
  obtain ⟨s, _⟩ := p
  obtain ⟨rfl, now, unheld, live⟩ := awaits
  obtain ⟨result, s', ran, now', attempted, -⟩ := crew.attempt_alone fits s
  dsimp only at live
  rw [live, if_neg (Nat.not_lt_of_le late)] at attempted
  generalize after : crew.live s' = live', held : (s'.client i).hold = hold at attempted
  cases attempted with
  | taken => exact ⟨s', ran, now'.trans now, held, now' ▸ after⟩

variable (hosts : ∀ i, ':' ∉ (crew.handle i).token.host.toList) (foreign : crew.Foreign i j)

include hosts foreign

/-- As long as the lease runs an attempt is refused, and leaves everything as it is. -/
theorem refused (awaits : crew.Awaits i j start left elapsed p) (early : elapsed < left) :
    ∃ p', (crew.handle i).run (crew.among i) .tryLock p = (.ok false, 0, p') ∧
      crew.Awaits i j start left elapsed p' := by
  obtain ⟨s, _⟩ := p
  obtain ⟨rfl, now, unheld, live⟩ := awaits
  obtain ⟨result, s', ran, now', attempted, -⟩ := crew.attempt_alone fits s
  dsimp only at live
  rw [live, if_pos early] at attempted
  generalize after : crew.live s' = live', held : (s'.client i).hold = hold at attempted
  cases attempted with
  | entered own =>
    rw [foreign.sameOwner hosts] at own
    cases own
  | refused =>
    refine ⟨_, ran, rfl, now'.trans now, ?_, after.trans (if_pos early).symm⟩
    rw [held, Hold.held_afterRefusal, Hold.isReentrant, unheld, Bool.false_and]
  | failed collection => exact absurd rfl (collection _)

/-- The rounds of a wait begin while the lease runs. -/
theorem rounds (awaits : crew.Awaits i j start left elapsed p) {elapsed' : Nat} {p' : Course ι}
    {rounds : List (Round (Course ι))}
    (goes : (crew.handle i).Rounds (crew.among i) limit elapsed p rounds elapsed' p') :
    (∀ r ∈ rounds, (r.took = 0 ∧ r.late = 0) ∧ r.start < left) ∧
      crew.Awaits i j start left elapsed' p' := by
  induction goes with
  | nil => exact ⟨by simp, awaits⟩
  | @cons elapsed took pause late elapsed' p p₁ p₂ p' rounds ran left' pauses slept rest ih =>
    -- after the end of the lease the attempt would not have been refused
    have early : elapsed < left := by
      refine Nat.lt_of_not_le fun late => ?_
      obtain ⟨s', taken, -⟩ := awaits.taken fits late
      cases ran.symm.trans taken
    obtain ⟨_, refused, awaits₁⟩ := awaits.refused fits hosts foreign early
    obtain ⟨-, rfl, rfl⟩ := ran.symm.trans refused
    obtain ⟨_, sleeps, awaits₂⟩ := awaits₁.sleep pause
    obtain ⟨rfl, rfl⟩ := slept.symm.trans sleeps
    obtain ⟨prompt, awaits'⟩ := ih awaits₂
    exact ⟨List.forall_mem_cons.2 ⟨⟨⟨rfl, rfl⟩, early⟩, prompt⟩, awaits'⟩

end Awaits

end Crew

/-- A wait for a lock that is left behind. Let the key hold the token of a handle of another host
or thread, where hosts have no colons, with some of its lease left. Let nobody else act, no question
be lost and no time pass but what the wait sleeps. A handle that holds nothing, with a lease that
fits 64 bits, waits for the lock, whatever else is in the store.

If the lease is over by the end of the wait, the wait succeeds at its first instant that is not
before the end of the lease, and not any later. The handle then holds the lock fresh, with a whole
lease of its own. Else the wait is refused when it is over, and the lock is left as it was. -/
theorem waits_out {ι : Type} [DecidableEq ι] (crew : Crew ι)
    (hosts : ∀ i, ':' ∉ (crew.handle i).token.host.toList) (i j : ι) (foreign : crew.Foreign i j)
    (fits : (crew.handle i).leaseMillis ≤ 9223372036854775807) (s : System ι) (left limit : Nat)
    (unheld : (s.client i).hold.held = false) (pos : 0 < left)
    (held : crew.live s = some ⟨.text (crew.handle j).token.text, some (s.now + left)⟩) :
    let h := crew.handle i
    ∃ s', if left ≤ limit then
        h.tryLockFor (crew.among i) limit ⟨s, []⟩ = (.ok true, ⟨s', []⟩) ∧
          (∃ waited, IsLeast {t | t ∈ h.instants limit ∧ left ≤ t} waited ∧
            s'.now = s.now + waited) ∧
          (s'.client i).hold = .fresh ∧
            crew.live s' = some ⟨.text h.token.text, some (s'.now + h.span)⟩
      else
        h.tryLockFor (crew.among i) limit ⟨s, []⟩ = (.ok false, ⟨s', []⟩) ∧
          s'.now = s.now + limit ∧ (s'.client i).hold.held = false ∧
          crew.live s' = some ⟨.text (crew.handle j).token.text, some (s.now + left)⟩ := by
  intro h
  have awaits : crew.Awaits i j s.now left 0 ⟨s, []⟩ := ⟨rfl, rfl, unheld, by simp [held, pos]⟩
  obtain ⟨result, p, waited, rounds, last, p₁, took, goes, ran, schedule⟩ :=
    h.keepsSchedule (crew.among i) limit ⟨s, []⟩
  obtain ⟨prompt, awaits₁⟩ := awaits.rounds fits hosts foreign goes
  have still : ∀ r ∈ rounds, r.took = 0 ∧ r.late = 0 := fun r mem => (prompt r mem).1
  rcases Nat.lt_or_ge last left with early | late
  · obtain ⟨⟨s', _⟩, refused, awaits'⟩ := awaits₁.refused fits hosts foreign early
    obtain ⟨rfl, rfl, rfl⟩ := ran.symm.trans refused
    obtain ⟨rfl, now, unheld', live⟩ := awaits'
    obtain ⟨-, rfl⟩ := schedule.instants rfl rfl still
    refine ⟨s', ?_⟩
    rw [if_neg (Nat.not_le_of_lt early)]
    exact ⟨waited, now, unheld', live.trans (if_pos early)⟩
  · obtain ⟨s', taken, now, fresh, live⟩ := awaits₁.taken fits late
    obtain ⟨rfl, -, rfl⟩ := ran.symm.trans taken
    have least := goes.isLeast_instants still (fun r mem => (prompt r mem).2) late
    have within : last ≤ limit := by
      obtain ⟨-, ends⟩ := goes.on_time still (k := 0) (by simp)
      exact ends ▸ Nat.min_le_right ..
    refine ⟨s', ?_⟩
    rw [if_pos (Nat.le_trans late within)]
    exact ⟨waited, ⟨last, least, now⟩, fresh, live⟩

/-- A lock that is left for 15 milliseconds is taken at the third attempt, after 20. -/
theorem waits_out_lapse :
    let crew := Crew.twoThreads
    let s := crew.lockedBy false (15 * Time.millisecond)
    (∀ i, ':' ∉ (crew.handle i).token.host.toList) ∧ crew.Foreign true false ∧
      (crew.handle true).leaseMillis ≤ 9223372036854775807 ∧
      (s.client true).hold.held = false ∧ ∃ s',
        (crew.handle true).tryLockFor (crew.among true) (25 * Time.millisecond) ⟨s, []⟩ =
            (.ok true, ⟨s', []⟩) ∧
          s'.now = 20 * Time.millisecond ∧ (s'.client true).hold = .fresh := by
  intro crew s
  have hosts : ∀ i, ':' ∉ (crew.handle i).token.host.toList := by decide
  have foreign : crew.Foreign true false := by decide
  have fits : (crew.handle true).leaseMillis ≤ 9223372036854775807 := by decide
  have held : crew.live s = some ⟨.text (crew.handle false).token.text,
      some (s.now + 15 * Time.millisecond)⟩ := by
    rw [show s.now + 15 * Time.millisecond = 15 * Time.millisecond from Nat.zero_add _]
    exact crew.live_lockedBy false (by decide)
  refine ⟨hosts, foreign, fits, rfl, ?_⟩
  obtain ⟨s', waits⟩ := waits_out crew hosts true false foreign fits s (15 * Time.millisecond)
    (25 * Time.millisecond) rfl (by decide) held
  rw [if_pos (by decide)] at waits
  obtain ⟨waited, ⟨span, ⟨⟨instant, late⟩, least⟩, now⟩, fresh, -⟩ := waits
  have instants : (crew.handle true).instants (25 * Time.millisecond) =
      [0, 10 * Time.millisecond, 20 * Time.millisecond, 25 * Time.millisecond] := by decide
  rw [instants] at instant least
  have le : span ≤ 20 * Time.millisecond := least ⟨by simp, by decide⟩
  have span_eq : span = 20 * Time.millisecond := by
    simp only [List.mem_cons, List.not_mem_nil, or_false] at instant
    rcases instant with rfl | rfl | rfl | rfl
    · exact absurd late (by decide)
    · exact absurd late (by decide)
    · rfl
    · exact absurd le (by decide)
  refine ⟨s', waited, ?_, fresh⟩
  rw [now, span_eq]
  exact Nat.zero_add _

end Turnstile.Lock
