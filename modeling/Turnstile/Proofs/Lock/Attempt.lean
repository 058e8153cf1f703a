import Turnstile.Proofs.Lock.Belief
import Turnstile.Proofs.Lock.Diary
import Turnstile.Proofs.Lock.First

/-!
# An attempt with nobody else about

An attempt asks up to three questions, chosen by what the handle holds and by the answers so far.
If nothing fails and nobody else acts meanwhile, all that matters is what is live in the key when
the attempt begins, and `Attempted` tells what the attempt comes to : its result, what it leaves
in the key and what the handle holds after it. `attempt_outcome` : every attempt comes to that, in
no time, with three questions at most and without a change to any other key.
-/

namespace Turnstile.Lock

/-- What an attempt by a handle with a hold comes to, where something or nothing is live in the
key : its result, what is live then, and the hold then. -/
inductive Attempted (h : Handle) (now : Nat) (before : Hold) :
    Option Entry → Except StoreError Bool → Option Entry → Hold → Prop
  /-- A free key is taken. -/
  | taken :
    Attempted h now before none (.ok true) (some ⟨.text h.token.text, some (now + h.span)⟩) .fresh
  /-- A token of the same owner gets a new lease. The hold is fresh if it was and the token is the
  handle's own, and reentrant else. -/
  | entered {stored : String} {t : Option Nat} (own : h.token.sameOwner stored = true) :
    Attempted h now before (some ⟨.text stored, t⟩) (.ok true)
      (some ⟨.text stored, some (now + h.span)⟩)
      (if before.isFresh = true ∧ stored = h.token.text then .fresh else .reentrant)
  /-- The token of another owner stays as it is. -/
  | refused {stored : String} {t : Option Nat} (other : h.token.sameOwner stored = false) :
    Attempted h now before (some ⟨.text stored, t⟩) (.ok false) (some ⟨.text stored, t⟩)
      before.afterRefusal
  /-- A collection is no lock. -/
  | failed {e : Entry} (collection : ∀ stored, e.value ≠ .text stored) :
    Attempted h now before (some e) (.error (.wrongType h.key)) (some e) before

/-! ## Move by move -/

/-- What an attempt goes on with once a fresh hold is given up, if there was one : the handle's own
token is not live, and no collection is. -/
def Hold.Lapsed (h : Handle) (before : Hold) (found : Option Entry) : Prop :=
  before.isFresh = true →
    ∀ e ∈ found, ∃ stored, e.value = .text stored ∧ stored ≠ h.token.text

/-- A move of an attempt that began with a hold and found something in the key, where something is
live now. -/
def Move.Meets (h : Handle) (now : Nat) (before : Hold) (found live : Option Entry) (m : Move) :
    Prop :=
  match m.next with
  | .ask .extending => live = found ∧ m.hold = before ∧ before.isFresh = true
  | .ask .acquiring => live = found ∧ m.hold = before.afterRefusal ∧ before.Lapsed h found
  | .ask .reentering =>
    live = found ∧ m.hold = before.afterRefusal ∧ before.Lapsed h found ∧ found.isSome = true
  | .ask _ => False
  | .finish result => Attempted h now before found result live m.hold

/-- A collection ends an attempt before a fresh hold is given up. -/
theorem Attempted.failed_of_lapsed {h : Handle} {now : Nat} {before : Hold} {e : Entry}
    (lapsed : before.Lapsed h (some e)) (collection : ∀ stored, e.value ≠ .text stored) :
    Attempted h now before (some e) (.error (.wrongType h.key)) (some e) before.afterRefusal := by
  have stale : before.isFresh = false := by
    refine Bool.eq_false_iff.2 fun fresh => ?_
    obtain ⟨stored, text, -⟩ := lapsed fresh e rfl
    exact collection stored text
  rw [Hold.afterRefusal_of_not_isFresh stale]
  exact .failed collection

namespace Move

variable {h : Handle} {now : Nat} {before : Hold} {found live : Option Entry}

theorem meets_start : (Call.tryLock.start before).Meets h now before found found := by
  unfold Call.start
  by_cases fresh : before.isFresh = true
  · rw [if_pos fresh]
    exact ⟨rfl, rfl, fresh⟩
  · rw [if_neg fresh]
    exact ⟨rfl, (Hold.afterRefusal_of_not_isFresh (Bool.eq_false_iff.2 fresh)).symm,
      fun fresh' => absurd fresh' fresh⟩

/-- The answer to an attempt to extend a fresh hold ends the attempt, unless the hold has
lapsed. -/
theorem meets_extending (fresh : before.isFresh = true) :
    let done := (Stage.extending.action h).effect now found
    (Stage.extending.resume before done.1).Meets h now before found (done.2.on found) := by
  intro done
  have given := Hold.afterRefusal_of_isFresh fresh
  rcases found with _ | ⟨stored | items | set, t⟩
  · exact ⟨rfl, given, by simp [Hold.Lapsed]⟩
  · by_cases own : stored = h.token.text
    · have entered : Attempted h now before (some ⟨.text stored, t⟩) (.ok true)
          (some ⟨.text stored, some (now + h.span)⟩) _ :=
        .entered (own ▸ h.token.sameOwner_text)
      rw [if_pos ⟨fresh, own⟩, ← Hold.eq_fresh fresh] at entered
      simpa [done, Stage.action, Action.effect, Action.extension, own, Stage.resume, Meets]
        using entered
    · simp [done, Stage.action, Action.effect, Action.extension, own, Stage.resume, Meets,
        Hold.Lapsed, given]
  · exact .failed (by simp)
  · exact .failed (by simp)

/-- The answer to an attempt to take the key ends the attempt, unless the key is not free. -/
theorem meets_acquiring (lapsed : before.Lapsed h found) :
    let done := (Stage.acquiring.action h).effect now found
    (Stage.acquiring.resume before.afterRefusal done.1).Meets h now before found
      (done.2.on found) := by
  intro done
  rcases found with _ | e
  · exact .taken
  · exact ⟨rfl, rfl, lapsed, rfl⟩

/-- The answer to an attempt to enter the key again ends the attempt. -/
theorem meets_reentering (lapsed : before.Lapsed h found) (taken : found.isSome = true) :
    let done := (Stage.reentering.action h).effect now found
    (Stage.reentering.resume before.afterRefusal done.1).Meets h now before found
      (done.2.on found) := by
  intro done
  rcases found with _ | e
  · cases taken
  rcases e with ⟨stored | items | set, t⟩
  · cases own : h.token.sameOwner stored with
    | true =>
      have entered : Attempted h now before (some ⟨.text stored, t⟩) (.ok true)
          (some ⟨.text stored, some (now + h.span)⟩) _ := .entered own
      have foreign : ¬(before.isFresh = true ∧ stored = h.token.text) := by
        rintro ⟨fresh, same⟩
        obtain ⟨stored', text, ne⟩ := lapsed fresh _ rfl
        exact ne ((Value.text.inj text).symm.trans same)
      rw [if_neg foreign] at entered
      rw [Token.sameOwner] at own
      simpa [done, Stage.action, Action.effect, Action.extension, own, Stage.resume, Meets]
        using entered
    | false =>
      have refused : Attempted h now before (some ⟨.text stored, t⟩) _ _ _ := .refused own
      rw [Token.sameOwner] at own
      simpa [done, Stage.action, Action.effect, Action.extension, own, Stage.resume, Meets]
        using refused
  · refine .failed_of_lapsed lapsed (by simp)
  · refine .failed_of_lapsed lapsed (by simp)

/-- An answer leads from a move of an attempt to another one. -/
theorem Meets.resume {m : Move} {stage : Stage} (meets : m.Meets h now before found live)
    (asks : m.next = .ask stage) :
    let done := (stage.action h).effect now live
    (stage.resume m.hold done.1).Meets h now before found (done.2.on live) := by
  unfold Meets at meets
  rw [asks] at meets
  cases stage with
  | extending =>
    obtain ⟨rfl, same, fresh⟩ := meets
    rw [same]
    exact meets_extending fresh
  | acquiring =>
    obtain ⟨rfl, same, lapsed⟩ := meets
    rw [same]
    exact meets_acquiring lapsed
  | reentering =>
    obtain ⟨rfl, same, lapsed, taken⟩ := meets
    rw [same]
    exact meets_reentering lapsed taken
  | renewing | releasing => cases meets

end Move

/-! ## In one go -/

namespace Crew

variable {ι : Type} [DecidableEq ι] (crew : Crew ι) {i : ι}

omit [DecidableEq ι] in
/-- A question with a lease that fits does to the key what its action does, and nothing to other
keys. -/
theorem eval_request (fits : (crew.handle i).leaseMillis ≤ 9223372036854775807) (s : System ι)
    (stage : Stage) :
    let evaluated := s.store.eval s.now (stage.request (crew.handle i))
    let done := (stage.action (crew.handle i)).effect s.now (crew.live s)
    evaluated.1 = done.1 ∧ crew.live { s with store := evaluated.2 } = done.2.on (crew.live s) ∧
      ∀ key ≠ crew.key, evaluated.2.live? s.now key = s.store.live? s.now key := by
  rcases stage.ofRequest_request (crew.handle i) with ⟨-, asked⟩ | ⟨⟨-, large⟩, -⟩
  · obtain ⟨answered, live⟩ := stage.eval_effect (crew.handle i) s.store s.now asked
    rw [crew.key_handle] at answered live
    refine ⟨answered, live, fun key other => ?_⟩
    have named := stage.key?_action (crew.handle i)
    rw [crew.key_handle] at named
    exact (s.store.live?_eval s.now asked named key).trans (if_neg other.symm)
  · exact absurd fits (Nat.not_le_of_lt large)

/-- What an attempt comes to with nobody else about. -/
theorem attempt_alone (fits : (crew.handle i).leaseMillis ≤ 9223372036854775807) (s : System ι) :
    ∃ result s', (crew.handle i).run (crew.among i) .tryLock ⟨s, []⟩ = (result, 0, ⟨s', []⟩) ∧
      s'.now = s.now ∧
      Attempted (crew.handle i) s.now (s.client i).hold (crew.live s) result (crew.live s')
        (s'.client i).hold ∧
      ∀ key ≠ crew.key, s'.store.live? s.now key = s.store.live? s.now key := by
  let h := crew.handle i
  let before := (s.client i).hold
  let Same (p : Course ι) : Prop := p.turns = [] ∧ p.system.now = s.now ∧
    ∀ key ≠ crew.key, p.system.store.live? s.now key = s.store.live? s.now key
  rcases ran : h.run (crew.among i) .tryLock ⟨s, []⟩ with ⟨result, took, s', turns⟩
  obtain ⟨⟨ended, now, others⟩, attempted⟩ : Same ⟨s', turns⟩ ∧
      Attempted h s.now before (crew.live s) result (crew.live s') (s'.client i).hold := by
    refine Handle.follow_induction
      (P := fun m p => Same p ∧ m.Meets h s.now before (crew.live s) (crew.live p.system))
      (Q := fun result p => Same p ∧ Attempted h s.now before (crew.live s) result
        (crew.live p.system) (p.system.client i).hold)
      ?asked ?finished ?started ran
    case started => exact ⟨⟨rfl, rfl, fun _ _ => rfl⟩, Move.meets_start⟩
    case asked =>
      rintro m stage ⟨s₁, _⟩ answer took p' ⟨⟨rfl, now, others⟩, meets⟩ asks ask
      have hold := (crew.keepsHold_among i).ask (stage.request h)
        ((crew.among i).commit m.hold m.events ⟨s₁, []⟩)
      rw [ask, (crew.keepsHold_among i).commit] at hold
      rw [hold]
      let s₂ := s₁.setClient i { s₁.client i with hold := m.hold }
      have alone := (crew.ask_among_nil i s₂ (stage.request h)).symm.trans ask
      obtain ⟨rfl, -, rfl⟩ := alone
      obtain ⟨answered, live, elsewhere⟩ := crew.eval_request fits s₂ stage
      refine ⟨⟨rfl, now, fun key other => ?_⟩, ?_⟩
      · rw [← others key other, ← now]
        exact elsewhere key other
      · rw [answered, live]
        have resumed := meets.resume asks
        rwa [← now] at resumed ⊢
    case finished =>
      rintro m result p ⟨same, meets⟩ finishes
      rw [Move.Meets, finishes] at meets
      refine ⟨same, ?_⟩
      change Attempted h s.now before (crew.live s) result (crew.live p.system)
        ((crew.among i).hold ((crew.among i).commit m.hold m.events p))
      rw [(crew.keepsHold_among i).commit]
      exact meets
  obtain ⟨-, -, -, -, time⟩ := reaches_follow ran (s.client i) (.call .tryLock) s.now
  obtain rfl : took = 0 := by
    dsimp only at time now
    omega
  obtain rfl : turns = [] := ended
  exact ⟨result, s', rfl, now, attempted, others⟩

end Crew

/-- One attempt of a handle whose lease fits 64 bits, in any state of the store and of the handle,
with nobody else about and no failure. It takes no time, asks three questions at most and leaves
what is live in every other key. Its result, what it leaves in the key and what the handle holds
after it are as told by `Attempted` :

- a free key is taken for a lease from now on, and held fresh;
- a token of the handle's host and thread gets a lease from now on, and is held fresh if the handle
  held its lock fresh and the token is its own, and else reentrant;
- the token of another owner is left, with a refusal;
- a collection is left, with an error. -/
theorem attempt_outcome {ι : Type} [DecidableEq ι] (crew : Crew ι) (i : ι) (s : System ι)
    (fits : (crew.handle i).leaseMillis ≤ 9223372036854775807) :
    let h := crew.handle i
    ∃ result s' deeds,
      h.run (crew.among i).recorded .tryLock (⟨s, []⟩, []) = (result, 0, ⟨s', []⟩, deeds) ∧
        s'.now = s.now ∧ deeds.countP Deed.isQuestion ≤ 3 ∧
        Attempted h s.now (s.client i).hold (crew.live s) result (crew.live s')
          (s'.client i).hold ∧
        ∀ key ≠ crew.key, s'.store.live? s'.now key = s.store.live? s.now key := by
  intro h
  obtain ⟨result, s', ran, now, attempted, others⟩ := crew.attempt_alone fits s
  obtain ⟨deeds, recorded, few⟩ := h.run_recorded (crew.among i) .tryLock ⟨s, []⟩
  rw [ran] at recorded
  exact ⟨result, s', deeds, recorded, now, few, attempted, now ▸ others⟩

/-- A store in which nothing is but the token of a handle, until some point of time. -/
def Crew.lockedBy {ι : Type} (crew : Crew ι) (i : ι) (expiry : Nat) : System ι where
  store := Keyspace.put {} crew.key ⟨.text (crew.handle i).token.text, some expiry⟩

theorem Crew.live_lockedBy {ι : Type} (crew : Crew ι) (i : ι) {expiry : Nat} (pos : 0 < expiry) :
    crew.live (crew.lockedBy i expiry) =
      some ⟨.text (crew.handle i).token.text, some expiry⟩ := by
  simp [live, lockedBy, Keyspace.live?_put, Entry.isExpired, pos.ne']

/-- A handle enters the lock of another one of its thread, and shortens its lease. -/
theorem attempt_outcome_reentry :
    let s := Crew.nested.lockedBy .long (5 * Time.second)
    let h := Crew.nested.handle .short
    h.leaseMillis ≤ 9223372036854775807 ∧ ∃ s' deeds,
      h.run (Crew.nested.among .short).recorded .tryLock (⟨s, []⟩, []) =
          (.ok true, 0, ⟨s', []⟩, deeds) ∧
        Crew.nested.live s' = some ⟨.text (Crew.nested.handle .long).token.text, some h.span⟩ ∧
        (s'.client .short).hold = .reentrant := by
  intro s h
  have fits : h.leaseMillis ≤ 9223372036854775807 := by decide
  obtain ⟨result, s', deeds, ran, -, -, attempted, -⟩ :=
    attempt_outcome Crew.nested .short s fits
  rw [Crew.live_lockedBy _ _ (by decide)] at attempted
  generalize after : Crew.nested.live s' = left, held : (s'.client .short).hold = hold at attempted
  refine ⟨fits, s', deeds, ?_⟩
  cases attempted with
  | entered own =>
    rw [show s.now + h.span = h.span from Nat.zero_add _] at after
    exact ⟨ran, after, held⟩
  | refused other => exact absurd other (by decide)
  | failed collection => exact absurd rfl (collection _)

end Turnstile.Lock
