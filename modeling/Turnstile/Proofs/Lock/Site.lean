import Turnstile.Proofs.Lock.Belief

/-!
# A handle at a store

`Site` is a store and a clock with a handle at work there, and `Site.surroundings` are the
surroundings of the handle. Around each of its questions and sleeps others make of the store
whatever they like, and time passes; and a question may fail in any way without reaching the store
(`Occasion`). What a question was evaluated on, and what it left, is kept as a `Visit`.

A visit leaves no trace if it changes nothing that clients see (`Visit.Traceless`). A question of a
handle that is not answered yes does so (`Site.traceless_visit`).
-/

namespace Turnstile.Lock

/-! ## What goes on around a handle -/

/-- A length of time, and what others make of the store by its end. -/
structure Meanwhile where
  others : Keyspace → Keyspace := id
  span : Nat := 0

/-- What goes on around a question or a sleep. -/
structure Occasion where
  before : Meanwhile := {}
  /-- The error that a question gets for an answer without being evaluated, if it is lost. -/
  lost : Option StoreError := none
  after : Meanwhile := {}

/-- A question of a handle, its answer, and the store before and after it. -/
structure Visit where
  now : Nat
  request : Request
  answer : Answer
  before : Keyspace
  after : Keyspace

/-- A visit changes nothing that clients see. -/
def Visit.Traceless (v : Visit) : Prop := v.after.live? v.now = v.before.live? v.now

/-- What a visit without a trace leaves shows what was there before, then and later. -/
theorem Visit.Traceless.later {v : Visit} (traceless : v.Traceless) {t : Nat} (le : v.now ≤ t) :
    v.after.live? t = v.before.live? t :=
  funext fun key => Keyspace.live?_congr_later (congrFun traceless key) le

/-- A store with a handle at work. -/
structure Site where
  now : Nat := 0
  store : Keyspace := {}
  /-- What the handle believes it holds. -/
  hold : Hold := .none
  /-- What the handle has logged. -/
  log : List Event := []
  /-- The questions that the handle has asked. -/
  visits : List Visit := []
  /-- What is going to go on around its next questions and sleeps. -/
  ahead : List Occasion := []

namespace Site

variable (p : Site)

/-- The site after some time. -/
def wait (m : Meanwhile) : Site := { p with now := p.now + m.span, store := m.others p.store }

/-- The visit that a question makes, unless it is lost. -/
def visit (lost : Option StoreError) (r : Request) : Visit :=
  match lost with
  | none =>
    let (answer, after) := p.store.eval p.now r
    ⟨p.now, r, answer, p.store, after⟩
  | some e => ⟨p.now, r, .error e, p.store, p.store⟩

@[simp] theorem now_visit (lost : Option StoreError) (r : Request) :
    (p.visit lost r).now = p.now := by
  cases lost <;> rfl

@[simp] theorem before_visit (lost : Option StoreError) (r : Request) :
    (p.visit lost r).before = p.store := by
  cases lost <;> rfl

/-- What goes on around the next question or sleep. -/
def next : Occasion := p.ahead.headD {}

/-- The visit of the next question. -/
def nextVisit (r : Request) : Visit := (p.wait p.next.before).visit p.next.lost r

/-- The site after the next question. -/
def asked (r : Request) : Site :=
  let v := p.nextVisit r
  let q := p.wait p.next.before
  { q with store := v.after, visits := p.visits ++ [v], ahead := p.ahead.tail }.wait p.next.after

/-- The site after a sleep. -/
def slept (span : Nat) : Site :=
  let q := p.wait p.next.before
  { q with now := q.now + span, ahead := p.ahead.tail }

/-- What a handle at a store runs in. A sleep is too long by the time that passes besides. -/
def surroundings : Surroundings Site where
  ask r p := ((p.nextVisit r).answer, (p.asked r).now - p.now, p.asked r)
  sleep span p := (p.next.before.span, p.slept span)
  hold p := p.hold
  commit hold events p := { p with hold, log := p.log ++ events }

theorem keepsHold_surroundings : surroundings.KeepsHold where
  commit _ _ _ := rfl
  ask _ _ := rfl
  sleep _ _ := rfl

/-- A question that is not answered yes leaves no trace. -/
theorem traceless_visit (lost : Option StoreError) {h : Handle} {stage : Stage}
    (no : ∀ reply, (p.visit lost (stage.request h)).answer = .ok reply → reply.isYes = false) :
    (p.visit lost (stage.request h)).Traceless := by
  cases lost with
  | none =>
    funext key
    exact Stage.live?_eval_of_no no key
  | some e => rfl

end Site

end Turnstile.Lock
