import Turnstile.Proofs.Lock.Among

/-!
# How long a lock lasts

In every run the key of a crew holds the token of one of its handles, for a lease that the
store gave to one of them (`Crew.leased_run`). A handle that takes the lock, enters it or renews
it sets the expiry to one lease of its own from then on, whatever it was before
(`yes_expiry`). So an expiry is put off by a handle whose lease is the longest, and a handle
with a shorter lease than the one before it can bring it forward.
-/

namespace Turnstile.Lock

namespace Stage.Outcome

variable {h : Handle} {now : Nat} {live live' : Option Entry} {stage : Stage} {answer : Answer}

/-- What is live after a question was so before, or has a lease from now on. -/
theorem expiresAt_of_live {e' : Entry} (o : Outcome h now live stage answer (some e')) :
    live = some e' ∨ e'.expiresAt = some (now + h.span) := by
  generalize after : some e' = live' at o
  cases o with
  | taken | extended =>
    obtain rfl := Option.some.inj after
    exact .inr rfl
  | occupied | foreign | failed => exact .inl rfl
  | released | absent => cases after

/-- A question that is answered yes leaves a lease from now on, unless it is a release. -/
theorem expiresAt_of_yes {reply : Reply} (o : Outcome h now live stage (.ok reply) live')
    (yes : reply.isYes = true) (lasting : stage ≠ releasing) :
    ∃ value, live' = some ⟨value, some (now + h.span)⟩ := by
  cases o with
  | taken => exact ⟨_, rfl⟩
  | extended => exact ⟨_, rfl⟩
  | released => exact absurd rfl lasting
  | occupied | absent | foreign => cases yes

end Stage.Outcome

namespace Crew

variable {ι : Type} (crew : Crew ι)

/-- When the key of the crew expires, if it is live. -/
def expiry? (s : System ι) : Option Nat := (crew.live s).bind Entry.expiresAt

/-- Whatever is live in the key is the token of a handle, with a lease that some handle was
given at some time. -/
def Leased (s : System ι) : Prop :=
  ∀ e, crew.live s = some e → ∃ i j t,
    e = ⟨.text (crew.handle i).token.text, some (t + (crew.handle j).span)⟩ ∧ t ≤ s.now

/-- The expiry of the key is at most the longest lease away. -/
theorem expiry?_le {s : System ι} (leased : crew.Leased s) {lease t : Nat}
    (longest : ∀ j, (crew.handle j).span ≤ lease) (expiry : crew.expiry? s = some t) :
    t ≤ s.now + lease := by
  obtain ⟨e, live, expires⟩ := Option.bind_eq_some_iff.1 expiry
  obtain ⟨i, j, given, rfl, past⟩ := leased e live
  obtain rfl := Option.some.inj expires
  exact Nat.add_le_add past (longest j)

variable [DecidableEq ι]

theorem Leased.step {s : System ι} (leased : crew.Leased s) (x : Step ι) :
    crew.Leased (crew.step s x) := by
  intro e' live
  have le := crew.now_le_step s x
  have keep (before : crew.live s = some e') : ∃ i j t,
      e' = ⟨.text (crew.handle i).token.text, some (t + (crew.handle j).span)⟩ ∧
        t ≤ (crew.step s x).now := by
    obtain ⟨i, j, t, rfl, past⟩ := leased e' before
    exact ⟨i, j, t, rfl, Nat.le_trans past le⟩
  obtain same | ⟨span, -, passed⟩ | ⟨i, op, since, stage, answer, rfl, -, -, outcome⟩ :=
    crew.live_step s x
  · exact keep (same.symm.trans live)
  · exact keep (Option.filter_eq_some_iff.1 (passed.symm.trans live)).1
  · rw [live] at outcome
    rcases outcome.expiresAt_of_live with before | given
    · exact keep before
    · obtain ⟨value, expiry⟩ := e'
      obtain rfl := given
      rcases outcome.value_of_live with ⟨-, rfl⟩ | ⟨e, before, rfl⟩
      · exact ⟨i, i, s.now, rfl, le⟩
      · obtain ⟨j, _, _, rfl, -⟩ := leased e before
        exact ⟨j, i, s.now, rfl, le⟩

theorem leased_run (steps : List (Step ι)) : crew.Leased (crew.run steps) := by
  refine crew.run_induction ?_ (fun s x leased => leased.step crew x) steps
  intro e live
  simp [Crew.live, Keyspace.live?] at live

end Crew

/-! ## A call with nobody else about -/

/-- A system in which only time passes before the next questions of a handle. -/
def Course.alone {ι : Type} (s : System ι) (spans : List Nat) : Course ι :=
  ⟨s, spans.map fun span => { before := [.pass span] }⟩

namespace Crew

variable {ι : Type} (crew : Crew ι) [DecidableEq ι] {i : ι}

/-- A question with nobody else about : time passes, and then the store answers. -/
theorem ask_alone {s : System ι} {spans : List Nat} {stage : Stage} {answer : Answer}
    {took : Nat} {p' : Course ι}
    (asked : (crew.among i).ask (stage.request (crew.handle i)) (.alone s spans) =
      (answer, took, p')) :
    (∃ rest, p' = .alone p'.system rest) ∧ s.now ≤ p'.system.now ∧
      ∃ live, Stage.Outcome (crew.handle i) p'.system.now live stage answer
        (crew.live p'.system) := by
  have outcome (s : System ι) := crew.outcome_eval s i stage
  cases spans with
  | nil =>
    rw [ask_among _ _ _ rfl] at asked
    obtain ⟨rfl, -, rfl⟩ := asked
    exact ⟨⟨[], rfl⟩, Nat.le_refl _, _, outcome s⟩
  | cons span spans =>
    rw [ask_among _ _ _ rfl] at asked
    obtain ⟨rfl, -, rfl⟩ := asked
    exact ⟨⟨spans, rfl⟩, Nat.le_add_right .., _, outcome (crew.step s (.pass span))⟩

end Crew

/-- No call but an unlock asks for the key to be deleted, and none other succeeds at once. -/
theorem Call.start_lasts {call : Call} (lasting : call ≠ .unlock) (hold : Hold) :
    (call.start hold).next ≠ .ask .releasing ∧ (call.start hold).next ≠ .finish (.ok true) := by
  fun_cases Call.start <;> simp_all

/-- A call that does not ask for the key to be deleted succeeds by an answer that says yes. -/
theorem Stage.resume_lasts {stage : Stage} (lasting : stage ≠ .releasing) (hold : Hold)
    (answer : Answer) :
    (stage.resume hold answer).next ≠ .ask .releasing ∧
      ((stage.resume hold answer).next = .finish (.ok true) →
        ∃ reply, answer = .ok reply ∧ reply.isYes = true) := by
  fun_cases Stage.resume <;> simp_all

/-- What taking or renewing a lock does to its expiry. Let a handle of a crew, in any state of
the system and with nobody else about, attempt its lock or renew it, with any time passing
before each of its questions. If it succeeds, the key expires one lease of this handle after
its last question. So if the state is one after a run and no handle of the crew has a longer
lease, the key expires no earlier than before. -/
theorem yes_expiry {ι : Type} [DecidableEq ι] (crew : Crew ι) (i : ι) (call : Call)
    (lasting : call ≠ .unlock) (s : System ι) (spans : List Nat) (took : Nat) (p' : Course ι)
    (ran : (crew.handle i).run (crew.among i) call (.alone s spans) = (.ok true, took, p')) :
    crew.expiry? p'.system = some (p'.system.now + (crew.handle i).span) ∧
      ∀ steps t, s = crew.run steps →
        (∀ j, (crew.handle j).leaseMillis ≤ (crew.handle i).leaseMillis) →
        crew.expiry? s = some t → t ≤ p'.system.now + (crew.handle i).span := by
  -- the last answer of a call that succeeds says yes, and no time passes after it
  have given : s.now ≤ p'.system.now ∧
      crew.expiry? p'.system = some (p'.system.now + (crew.handle i).span) := by
    refine Handle.follow_induction
      (P := fun m p => (∃ s' rest, p = .alone s' rest ∧ s.now ≤ s'.now) ∧
        m.next ≠ .ask .releasing ∧ (m.next = .finish (.ok true) →
          crew.expiry? p.system = some (p.system.now + (crew.handle i).span)))
      (Q := fun result p' => result = .ok true → s.now ≤ p'.system.now ∧
        crew.expiry? p'.system = some (p'.system.now + (crew.handle i).span))
      ?asked ?finished ?start ran rfl
    case start =>
      obtain ⟨lasts, later⟩ := Call.start_lasts lasting ((crew.among i).hold (.alone s spans))
      exact ⟨⟨s, spans, rfl, Nat.le_refl _⟩, lasts, fun ends => absurd ends later⟩
    case asked =>
      rintro m stage _ answer took p₂ ⟨⟨s', rest, rfl, le⟩, lasts, -⟩ asks asked
      have lasting : stage ≠ .releasing := fun releases => lasts (releases ▸ asks)
      obtain ⟨⟨rest', alone⟩, le', live, outcome⟩ := crew.ask_alone asked
      obtain ⟨lasts', tells⟩ := Stage.resume_lasts lasting ((crew.among i).hold p₂) answer
      refine ⟨⟨p₂.system, rest', alone, Nat.le_trans le le'⟩, lasts', fun ends => ?_⟩
      obtain ⟨reply, rfl, yes⟩ := tells ends
      obtain ⟨value, leased⟩ := outcome.expiresAt_of_yes yes lasting
      rw [Crew.expiry?, leased]
      rfl
    case finished =>
      rintro m result _ ⟨⟨s', rest, rfl, le⟩, -, given⟩ finishes rfl
      exact ⟨le, given finishes⟩
  refine ⟨given.2, ?_⟩
  rintro steps t rfl longest expiry
  have spans (j : ι) : (crew.handle j).span ≤ (crew.handle i).span :=
    Nat.mul_le_mul_right _ (longest j)
  have before := crew.expiry?_le (crew.leased_run steps) spans expiry
  exact Nat.le_trans before (Nat.add_le_add_right given.1 _)

/-- A handle takes the lock for half a minute, and another one of its thread enters it with a
lease of a second. -/
theorem shortened_reentry :
    let before := Crew.nested.run (Step.call .long .tryLock 1)
    let after := Crew.nested.run (Step.call .long .tryLock 1 ++ Step.call .short .tryLock 2)
    Crew.nested.expiry? before = some (30 * Time.second) ∧
      (Crew.nested.handle .short).token.sameOwner (Crew.nested.handle .long).token.text = true ∧
      (after.client .short).results = [(.call .tryLock, .ok true)] ∧
      Crew.nested.expiry? after = some Time.second :=
  ⟨by decide, by decide, by rfl, by decide⟩

/-- A handle takes the lock for a second, and one with a longer lease is about to enter it. -/
def shortHold : Course Member :=
  .alone (Crew.nested.run (Step.call .short .tryLock 1)) [Time.millisecond, Time.millisecond]

theorem yes_expiry_shortHold :
    ∃ took p', (Crew.nested.handle .long).run (Crew.nested.among .long) .tryLock shortHold =
        (.ok true, took, p') ∧
      Crew.nested.expiry? shortHold.system = some Time.second ∧
      Crew.nested.expiry? p'.system = some (p'.system.now + 30 * Time.second) ∧
      Time.second ≤ p'.system.now + 30 * Time.second := by
  have entered : ((Crew.nested.handle .long).run (Crew.nested.among .long) .tryLock shortHold).1 =
      .ok true := by
    rw [Handle.run, Handle.follow_of_ask _ _ _ _ rfl, Handle.follow_of_ask _ _ _ _ rfl,
      Handle.follow_of_finish _ _ _ _ rfl]
  have ran : (Crew.nested.handle .long).run (Crew.nested.among .long) .tryLock shortHold =
      (.ok true, _, _) := Prod.ext entered rfl
  have before : Crew.nested.expiry? shortHold.system = some Time.second := by decide
  have lease := yes_expiry Crew.nested .long .tryLock (by decide) _ _ _ _ ran
  exact ⟨_, _, ran, before, lease.1, lease.2 _ _ rfl (by decide) before⟩

end Turnstile.Lock
