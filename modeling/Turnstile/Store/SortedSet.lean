import Std.Data.TreeMap
import Std.Data.TreeSet

/-!
# Sorted sets

A sorted set gives each of its payloads a score. It is kept twice: by payload, to find a
score, and in the order of scores, to find the payload that comes first. Among equal scores
the payloads are in the order of their texts, which by code point is also that of their
bytes in UTF-8.
-/

namespace Turnstile

/-- A place in a sorted set. -/
structure Slot where
  score : Int
  payload : String
deriving DecidableEq, Repr

namespace Slot

/-- The order of places: by score, then by payload. -/
def order : Slot → Slot → Ordering := compareLex (compareOn score) (compareOn payload)

instance : Std.TransCmp order := inferInstanceAs (Std.TransCmp (compareLex _ _))

instance : Std.LawfulEqCmp order where
  eq_of_compare {a b} h := by
    simp only [order, compareLex, compareOn, Ordering.then_eq_eq, Std.LawfulEqOrd.compare_eq_iff_eq]
      at h
    cases a; cases b; simp_all

end Slot

/-- Payloads with scores. -/
structure SortedSet where
  scores : Std.TreeMap String Int := ∅
  slots : Std.TreeSet Slot Slot.order := ∅

namespace SortedSet

/-- Gives a payload a score, in place of the one it may have had. -/
def insert (s : SortedSet) (payload : String) (score : Int) : SortedSet where
  scores := s.scores.insert payload score
  slots :=
    match s.scores[payload]? with
    | some previous => (s.slots.erase ⟨previous, payload⟩).insert ⟨score, payload⟩
    | none => s.slots.insert ⟨score, payload⟩

/-- Takes a payload out, if it is there. -/
def erase (s : SortedSet) (payload : String) : SortedSet :=
  match s.scores[payload]? with
  | some score => ⟨s.scores.erase payload, s.slots.erase ⟨score, payload⟩⟩
  | none => s

/-- The score of a payload. -/
def score? (s : SortedSet) (payload : String) : Option Int := s.scores[payload]?

/-- Whether a payload is in the set. -/
def contains (s : SortedSet) (payload : String) : Bool := (s.score? payload).isSome

/-- The first place in the order. -/
def first? (s : SortedSet) : Option Slot := s.slots.min?

/-- How many payloads there are. -/
def size (s : SortedSet) : Nat := s.scores.size

/-! ## Scores after a change -/

theorem score?_empty (payload : String) : ({} : SortedSet).score? payload = none := by
  simp [score?]

theorem score?_insert (s : SortedSet) (payload other : String) (score : Int) :
    (s.insert payload score).score? other =
      if payload = other then some score else s.score? other := by
  simp [score?, insert, Std.TreeMap.getElem?_insert]

theorem score?_erase (s : SortedSet) (payload other : String) :
    (s.erase payload).score? other = if payload = other then none else s.score? other := by
  unfold erase
  split
  · simp [score?, Std.TreeMap.getElem?_erase]
  · next absent =>
    by_cases same : payload = other
    · subst same
      simpa [score?] using absent
    · simp [same]

end SortedSet

end Turnstile
