import Turnstile.Proofs.Lock.Site

/-!
# Giving a lock up

An unlock asks the store at most once, and only for a fresh hold. It deletes the key of the handle
if the question reaches the store while the handle's own token is live there, and changes nothing
else. `unlock_outcome` : this holds whatever the handle believes and whatever is in the store, and
afterwards the handle holds nothing. A second unlock has then nothing to do, whatever has become of
the store meanwhile.
-/

namespace Turnstile.Lock

/-- Whether an answer is yes. -/
def isYes : Answer → Bool
  | .ok reply => reply.isYes
  | .error _ => false

/-- An unlock ends with the answer to its question, and logs one event. -/
theorem Stage.resume_releasing (hold : Hold) (answer : Answer) :
    ∃ event, releasing.resume hold answer =
      { hold, events := [event], next := .finish (.ok (isYes answer)) } := by
  rcases answer with e | reply
  · exact ⟨_, rfl⟩
  · cases yes : reply.isYes with
    | true => exact ⟨.released, by simp [resume, isYes, yes]⟩
    | false => exact ⟨.notReleased, by simp [resume, isYes, yes]⟩

/-! ## The question -/

/-- The token of a handle is live in its key. -/
def Handle.Owns (h : Handle) (k : Keyspace) (now : Nat) : Prop :=
  ∃ t, k.live? now h.key = some ⟨.text h.token.text, t⟩

/-- A release is answered yes exactly if the handle's own token is live, and then deletes the key
and changes nothing else that clients see. -/
theorem Stage.eval_releasing (h : Handle) (k : Keyspace) (now : Nat) :
    let evaluated := k.eval now (releasing.request h)
    (isYes evaluated.1 = true ↔ h.Owns k now) ∧
      (isYes evaluated.1 = true →
        evaluated.2.live? now = Function.update (k.live? now) h.key none) := by
  intro evaluated
  have outcome : Outcome h now (k.live? now h.key) releasing evaluated.1
      (evaluated.2.live? now h.key) := releasing.outcome h k now
  have others : ∀ key ≠ h.key, evaluated.2.live? now key = k.live? now key := fun key other =>
    k.live?_eval_of_notMem now (by simpa [keys_request] using other)
  generalize evaluated = done at outcome others ⊢
  obtain ⟨answer, after⟩ := done
  refine ⟨⟨fun yes => ?_, ?_⟩, fun yes => ?_⟩
  · cases answer with
    | error e => cases yes
    | ok reply => exact (outcome.own_of_released yes).1
  · rintro ⟨t, live⟩
    rw [live] at outcome
    obtain ⟨answered, -⟩ := outcome.released_of_own
    rw [show answer = .ok (.ofBool true) from answered]
    rfl
  · cases answer with
    | error e => cases yes
    | ok reply =>
      funext key
      by_cases own : key = h.key
      · subst own
        rw [Function.update_self]
        exact (outcome.own_of_released yes).2
      · rw [Function.update_of_ne own]
        exact others key own

/-- A visit deletes a key, and changes nothing else that clients see. -/
def Visit.Deletes (v : Visit) (key : String) : Prop :=
  v.after.live? v.now = Function.update (v.before.live? v.now) key none

/-- A release that is lost is not answered yes, and one that is evaluated is if the handle's own
token is live. It deletes the key then, and else leaves no trace. -/
theorem Site.visit_releasing (p : Site) (lost : Option StoreError) (h : Handle) :
    let v := p.visit lost (Stage.releasing.request h)
    (isYes v.answer = true ↔ lost = none ∧ h.Owns v.before v.now) ∧
      if isYes v.answer = true then v.Deletes h.key else v.Traceless := by
  intro v
  have traceless (no : ¬isYes v.answer = true) : v.Traceless := by
    refine p.traceless_visit lost fun reply answered => ?_
    rw [show v.answer = .ok reply from answered] at no
    exact Bool.eq_false_iff.2 no
  cases lost with
  | some e =>
    have no : ¬isYes v.answer = true := Bool.false_ne_true
    rw [if_neg no]
    exact ⟨⟨fun yes => absurd yes no, fun met => nomatch met.1⟩, traceless no⟩
  | none =>
    obtain ⟨met, deletes⟩ := Stage.eval_releasing h p.store p.now
    refine ⟨met.trans (iff_and_self.2 fun _ => rfl), ?_⟩
    split
    · next yes => exact deletes yes
    · next no => exact traceless no

/-! ## The call -/

theorem Hold.unheld_or_reentrant_or_fresh (hold : Hold) :
    hold.held = false ∨ hold.isReentrant = true ∨ hold = .fresh := by
  rcases hold with ⟨_ | _, _ | _⟩
  · exact .inl rfl
  · exact .inl rfl
  · exact .inr (.inr rfl)
  · exact .inr (.inl rfl)

namespace Handle

variable {h : Handle} {p : Site}

theorem unlock_of_unheld (unheld : p.hold.held = false) :
    h.unlock Site.surroundings p = (false, p) := by
  have start : Call.unlock.start (Site.surroundings.hold p) =
      ⟨p.hold, [], .finish (.ok false)⟩ := by
    simp [Call.start, Site.surroundings, Hold.isReentrant, unheld]
  rw [unlock, run, start, follow_of_finish _ _ _ _ rfl]
  simp [Site.surroundings]

theorem unlock_of_reentrant (reentrant : p.hold.isReentrant = true) :
    h.unlock Site.surroundings p = (true, Site.surroundings.commit .none [.left] p) := by
  have start : Call.unlock.start (Site.surroundings.hold p) =
      ⟨.none, [.left], .finish (.ok true)⟩ := by
    simp [Call.start, Site.surroundings, reentrant]
  rw [unlock, run, start, follow_of_finish _ _ _ _ rfl]

/-- An unlock of a fresh hold ends with the answer to its question. -/
theorem unlock_of_fresh (fresh : p.hold = .fresh) :
    let r := Stage.releasing.request h
    ∃ event, h.unlock Site.surroundings p =
      (isYes (p.nextVisit r).answer,
        Site.surroundings.commit .none [event]
          ((Site.surroundings.commit .none [] p).asked r)) := by
  intro r
  have start : Call.unlock.start (Site.surroundings.hold p) = ⟨.none, [], .ask .releasing⟩ := by
    simp [Call.start, Site.surroundings, fresh, Hold.fresh, Hold.isReentrant]
  let q := (Site.surroundings.commit .none [] p).asked r
  have answers : Site.surroundings.ask r (Site.surroundings.commit .none [] p) =
      ((p.nextVisit r).answer, q.now - p.now, q) := rfl
  obtain ⟨event, resumed⟩ :=
    Stage.resume_releasing (Site.surroundings.hold q) (p.nextVisit r).answer
  refine ⟨event, ?_⟩
  rw [unlock, run, start, follow_of_answer rfl answers (congrArg Move.next resumed), resumed]
  rfl

/-- After an unlock nothing is held. -/
theorem held_unlock : (h.unlock Site.surroundings p).2.hold.held = false := by
  obtain unheld | reentrant | fresh := p.hold.unheld_or_reentrant_or_fresh
  · rw [unlock_of_unheld unheld, unheld]
  · rw [unlock_of_reentrant reentrant]
    rfl
  · obtain ⟨event, unlocked⟩ := unlock_of_fresh (h := h) fresh
    rw [unlocked]
    rfl

/-- An unlock without a fresh hold asks nothing. It reports success exactly for a reentrant hold. -/
theorem unlock_of_not_fresh (other : ¬p.hold.isFresh = true) :
    let done := h.unlock Site.surroundings p
    done.2.visits = p.visits ∧ done.2.store = p.store ∧ done.1 = p.hold.isReentrant := by
  obtain unheld | reentrant | fresh := p.hold.unheld_or_reentrant_or_fresh
  · rw [unlock_of_unheld unheld]
    exact ⟨rfl, rfl, by rw [Hold.isReentrant, unheld, Bool.false_and]⟩
  · rw [unlock_of_reentrant reentrant]
    exact ⟨rfl, rfl, reentrant.symm⟩
  · exact absurd (congrArg Hold.isFresh fresh) other

end Handle

/-! ## What an unlock does -/

/-- Afterwards a handle holds nothing. A fresh hold is given up by one question, and the unlock
reports success exactly if that reaches the store while the handle's own token is live; then the
key is deleted, and else nothing changes. Without a fresh hold nothing is asked, and success means
that a reentrant hold has been left. A second unlock reports failure and does nothing at all,
however late it comes. -/
theorem unlock_outcome (h : Handle) (p : Site) :
    ∃ released p', h.unlock Site.surroundings p = (released, p') ∧
      p'.hold.held = false ∧ p'.hold.isReentrant = false ∧
      (if p.hold.isFresh = true then
        let v := p.nextVisit (Stage.releasing.request h)
        p'.visits = p.visits ++ [v] ∧ p'.store = p.next.after.others v.after ∧
          (released = true ↔ p.next.lost = none ∧ h.Owns v.before v.now) ∧
          if released = true then v.Deletes h.key else v.Traceless
      else p'.visits = p.visits ∧ p'.store = p.store ∧ released = p.hold.isReentrant) ∧
      ∀ later : Site, h.unlock Site.surroundings { later with hold := p'.hold } =
        (false, { later with hold := p'.hold }) := by
  obtain ⟨released, p', unlocked⟩ : ∃ released p', h.unlock Site.surroundings p = (released, p') :=
    ⟨_, _, rfl⟩
  have unheld : p'.hold.held = false := by
    simpa only [unlocked] using Handle.held_unlock (h := h) (p := p)
  refine ⟨released, p', unlocked, unheld, by rw [Hold.isReentrant, unheld, Bool.false_and], ?_,
    fun later => Handle.unlock_of_unheld unheld⟩
  split
  · next fresh =>
    obtain ⟨event, done⟩ := Handle.unlock_of_fresh (h := h) (Hold.eq_fresh fresh)
    obtain ⟨rfl, rfl⟩ := Prod.mk.inj (unlocked.symm.trans done)
    exact ⟨rfl, rfl, (p.wait p.next.before).visit_releasing p.next.lost h⟩
  · next other => simpa only [unlocked] using Handle.unlock_of_not_fresh (h := h) other

end Turnstile.Lock
