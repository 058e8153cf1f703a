import Mathlib.Data.Finset.Card
import Turnstile.Proofs.Store.Access
import Turnstile.Proofs.Store.Effect
import Turnstile.Proofs.Text.ByteOrder

/-!
# What the keyspace keeps true of its entries

A sorted set is kept twice, and the two copies tell the same after every change
(`SortedSet.Agrees`). So its first place is the least pair of a score and a payload, in the
order of the payload's bytes (`SortedSet.Agrees.first?_eq_some`).

An entry is a token that expires, or a collection that has elements and does not expire
(`Entry.Sound`). Every evaluation keeps this true of all entries, expired ones included
(`Keyspace.Sound.eval`), and so does every other access (`Keyspace.Sound.replay`). Whatever does
not see tokens in an entry is therefore the same at all points of time, and after whatever is
done to locks (`view_filter`, `view_effect`).
-/

namespace Turnstile

/-! ## The order of places -/

namespace Slot

theorem mk_eq_iff {score : Int} {payload : String} {slot : Slot} :
    (⟨score, payload⟩ : Slot) = slot ↔ score = slot.score ∧ payload = slot.payload := by
  cases slot
  simp

theorem isLE_compare_text (s t : String) : (compare s t).isLE ↔ s ≤ t :=
  isLE_compareOfLessAndEq String.le_antisymm String.not_le String.le_total

/-- A place comes before another by its score, and among equal scores by the bytes of its
payload. -/
theorem isLE_order {a b : Slot} :
    (order a b).isLE ↔
      a.score < b.score ∨ a.score = b.score ∧ Text.bytes a.payload ≤ Text.bytes b.payload := by
  unfold order compareLex compareOn
  rw [Ordering.isLE_then_iff_or, Int.compare_eq_lt, Std.LawfulEqOrd.compare_eq_iff_eq,
    isLE_compare_text, Text.le_iff_bytes_le]

end Slot

/-! ## The two copies of a sorted set -/

namespace SortedSet

/-- A place is in the order of scores exactly if its payload has its score. -/
def Agrees (s : SortedSet) : Prop :=
  ∀ slot : Slot, slot ∈ s.slots ↔ s.score? slot.payload = some slot.score

namespace Agrees

variable {s : SortedSet}

theorem empty : Agrees {} := by
  intro slot
  simp [score?]

theorem insert (h : s.Agrees) (payload : String) (score : Int) :
    (s.insert payload score).Agrees := by
  intro slot
  rw [score?_insert]
  by_cases same : payload = slot.payload
  · -- the place that the payload had before is no longer there
    subst same
    rw [if_pos rfl]
    unfold SortedSet.insert
    cases before : s.scores[slot.payload]? with
    | none =>
      have absent : slot ∉ s.slots := by simp [h slot, score?, before]
      simp [absent, Slot.mk_eq_iff]
    | some previous =>
      have only : slot ∈ s.slots ↔ previous = slot.score := by simp [h slot, score?, before]
      simp [only, Slot.mk_eq_iff]
  · rw [if_neg same, ← h slot]
    unfold SortedSet.insert
    split <;> simp [same, Slot.mk_eq_iff]

theorem erase (h : s.Agrees) (payload : String) : (s.erase payload).Agrees := by
  intro slot
  rw [score?_erase]
  unfold SortedSet.erase
  by_cases same : payload = slot.payload
  · subst same
    rw [if_pos rfl]
    cases before : s.scores[slot.payload]? with
    | none => simp [h slot, score?, before]
    | some previous =>
      have only : slot ∈ s.slots ↔ previous = slot.score := by simp [h slot, score?, before]
      simp [only, Slot.mk_eq_iff]
  · rw [if_neg same, ← h slot]
    split
    · simp [same, Slot.mk_eq_iff]
    · rfl

/-- A payload is in one place only. -/
theorem eq_of_payload (h : s.Agrees) {slot other : Slot} (mem : slot ∈ s.slots)
    (mem' : other ∈ s.slots) (same : slot.payload = other.payload) : slot = other := by
  have score := (h slot).1 mem
  rw [same, (h other).1 mem', Option.some_inj] at score
  exact Slot.mk_eq_iff.2 ⟨score.symm, same⟩

/-- The first place is the least pair of a score and a payload. -/
theorem first?_eq_some (h : s.Agrees) {slot : Slot} :
    s.first? = some slot ↔ s.score? slot.payload = some slot.score ∧
      ∀ payload score, s.score? payload = some score →
        slot.score < score ∨
          slot.score = score ∧ Text.bytes slot.payload ≤ Text.bytes payload := by
  unfold first?
  rw [Std.TreeSet.min?_eq_some_iff_mem_and_forall, h slot]
  refine and_congr_right fun _ => ?_
  constructor
  · intro least payload score present
    exact Slot.isLE_order.1 (least ⟨score, payload⟩ ((h ⟨score, payload⟩).2 present))
  · intro least other present
    exact Slot.isLE_order.2 (least other.payload other.score ((h other).1 present))

theorem first?_eq_none (h : s.Agrees) : s.first? = none ↔ ∀ payload, s.score? payload = none := by
  unfold first?
  rw [Std.TreeSet.min?_eq_none_iff, Std.TreeSet.isEmpty_iff_forall_not_mem]
  constructor
  · intro absent payload
    rw [Option.eq_none_iff_forall_ne_some]
    intro score present
    exact absent ⟨score, payload⟩ ((h ⟨score, payload⟩).2 present)
  · intro absent slot present
    rw [h slot, absent] at present
    cases present

end Agrees

/-- The size counts the payloads that have a score. -/
theorem exists_card_eq_size (s : SortedSet) :
    ∃ payloads : Finset String, (∀ payload, payload ∈ payloads ↔ (s.score? payload).isSome) ∧
      payloads.card = s.size := by
  refine ⟨s.scores.keys.toFinset, fun payload => ?_, ?_⟩
  · rw [List.mem_toFinset, Std.TreeMap.mem_keys, Std.TreeMap.mem_iff_isSome_getElem?]
    rfl
  · rw [List.toFinset_card_of_nodup Std.TreeMap.nodup_keys, Std.TreeMap.length_keys]
    rfl

theorem size_eq_zero (s : SortedSet) : s.size = 0 ↔ ∀ payload, s.score? payload = none := by
  obtain ⟨payloads, mem, card⟩ := s.exists_card_eq_size
  rw [← card, Finset.card_eq_zero, Finset.eq_empty_iff_forall_notMem]
  simp [mem]

end SortedSet

/-! ## Entries -/

/-- What the keyspace stores : a token expires, and a collection has elements and does not. -/
inductive Entry.Sound : Entry → Prop
  | text (token : String) (expiry : Nat) : Sound ⟨.text token, some expiry⟩
  | list {items : List String} (filled : items ≠ []) : Sound ⟨.list items, none⟩
  | sorted {set : SortedSet} (agrees : set.Agrees) (filled : set.size ≠ 0) :
    Sound ⟨.sorted set, none⟩

namespace Change

/-- A change stores nothing that is not sound. -/
def Sound : Change → Prop
  | put e => e.Sound
  | _ => True

theorem sound_store {e : Entry} (h : e.value.isEmptyCollection = false → e.Sound) :
    (store e).Sound := by
  unfold store
  split
  · trivial
  · next filled => exact h (Bool.eq_false_of_not_eq_true filled)

theorem Sound.on {c : Change} (h : c.Sound) {live : Option Entry} (sound : ∀ e ∈ live, e.Sound) :
    ∀ e ∈ c.on live, e.Sound := by
  cases c with
  | keep => exact sound
  | put e =>
    intro e' same
    obtain rfl := Option.some.inj same
    exact h
  | drop => simp

end Change

namespace Action

theorem extension_sound (owns : String → Bool) (key : String) (expiry : Nat)
    (live : Option Entry) : (extension owns key expiry live).2.Sound := by
  unfold extension
  split
  · trivial
  · split
    · exact .text _ _
    · trivial
  · trivial

/-- An action makes only sound entries of sound ones. -/
theorem effect_sound (now : Nat) (a : Action) {live : Option Entry}
    (sound : ∀ e ∈ live, e.Sound) : (a.effect now live).2.Sound := by
  rcases live with _ | e
  · cases a with
    | acquire => exact .text _ _
    | push => exact .list (by simp)
    | delayedPush _ payload score =>
      refine .sorted (SortedSet.Agrees.empty.insert payload score) ?_
      rw [Ne, SortedSet.size_eq_zero]
      intro absent
      simpa [SortedSet.score?_insert] using absent payload
    | _ => trivial
  · have kept := sound e rfl
    cases kept with
    | text token expiry =>
      cases a with
      | reenter => exact extension_sound ..
      | renew => exact extension_sound ..
      | release =>
        unfold effect
        dsimp only
        split <;> trivial
      | _ => trivial
    | list filled =>
      cases a with
      | push => exact .list (by simp)
      | pop =>
        refine Change.sound_store fun nonempty => .list ?_
        simpa [Value.isEmptyCollection] using nonempty
      | _ => trivial
    | sorted agrees filled =>
      cases a with
      | delayedPush _ payload score =>
        refine .sorted (agrees.insert payload score) ?_
        rw [Ne, SortedSet.size_eq_zero]
        intro absent
        simpa [SortedSet.score?_insert] using absent payload
      | delayedPop =>
        unfold effect
        dsimp only
        split
        · next slot _ =>
          refine Change.sound_store fun nonempty => .sorted (agrees.erase slot.payload) ?_
          simpa [Value.isEmptyCollection] using nonempty
        · exact Change.sound_store fun _ => .sorted agrees filled
      | delayedRemove _ payload =>
        refine Change.sound_store fun nonempty => .sorted (agrees.erase payload) ?_
        simpa [Value.isEmptyCollection] using nonempty
      | _ => trivial

end Action

/-! ## Views that do not see tokens -/

/-- Whether an action works on a lock. -/
def Action.OnLock : Action → Prop
  | acquire .. | reenter .. | renew .. | release .. | owner _ => True
  | _ => False

section Views

variable {α : Type} {view : Option Entry → α}
  (blind : ∀ token t, view (some ⟨.text token, t⟩) = view none)

include blind

/-- Only tokens expire, so what does not see tokens does not see time. -/
theorem view_filter {e : Option Entry} (sound : ∀ e' ∈ e, e'.Sound) (now : Nat) :
    view (e.filter fun e => !e.isExpired now) = view e := by
  rcases e with _ | e
  · rfl
  · have kept := sound e rfl
    cases kept with
    | text token expiry =>
      rw [Option.filter_some]
      split
      · rfl
      · exact (blind _ _).symm
    | list => rfl
    | sorted => rfl

theorem view_extension (owns : String → Bool) (key : String) (expiry : Nat)
    (live : Option Entry) :
    view ((Action.extension owns key expiry live).2.on live) = view live := by
  unfold Action.extension
  split
  · rfl
  · split
    · exact (blind _ _).trans (blind _ _).symm
    · rfl
  · rfl

/-- Nor does it see what is done to locks. -/
theorem view_effect {a : Action} (lock : a.OnLock) (now : Nat) (live : Option Entry) :
    view ((a.effect now live).2.on live) = view live := by
  cases a with
  | reenter => exact view_extension blind ..
  | renew => exact view_extension blind ..
  | acquire =>
    cases live with
    | none => exact blind _ _
    | some => rfl
  | owner => rcases live with _ | ⟨_ | _ | _, _⟩ <;> rfl
  | release =>
    rcases live with _ | ⟨_ | _ | _, _⟩
    · rfl
    · unfold Action.effect
      dsimp only
      split
      · exact (blind _ _).symm
      · rfl
    · rfl
    · rfl
  | _ => exact lock.elim

end Views

/-! ## Keyspaces -/

namespace Keyspace

/-- Every entry is sound. -/
def Sound (k : Keyspace) : Prop := ∀ key : String, ∀ e ∈ k.entries[key]?, Entry.Sound e

namespace Sound

variable {k : Keyspace} (h : k.Sound)

theorem empty : Sound {} := by
  intro key e stored
  simp at stored

include h

theorem live (now : Nat) (key : String) : ∀ e ∈ k.live? now key, e.Sound := by
  intro e shown
  exact h key e (Option.mem_filter_iff.1 shown).1

theorem touch (now : Nat) (key : String) : (k.touch now key).Sound := by
  intro other
  by_cases same : key = other
  · subst same
    rw [getElem?_touch_self]
    exact h.live now key
  · rw [getElem?_touch_of_ne k now same]
    exact h other

theorem tick (now : Nat) : (k.tick now).Sound := by
  unfold Keyspace.tick
  dsimp only
  split
  · intro key e stored
    simp only [sweep, Std.TreeMap.getElem?_filter'] at stored
    exact h key e (Option.mem_filter_iff.1 stored).1
  · exact h

theorem change (key : String) {c : Change} (sound : c.Sound) : (k.change key c).Sound := by
  intro other
  cases c with
  | keep => exact h other
  | put e =>
    rw [change_put, put, Std.TreeMap.getElem?_insert]
    split
    · intro e' same
      obtain rfl := Option.some.inj same
      exact sound
    · exact h other
  | drop =>
    rw [change_drop, delete, Std.TreeMap.getElem?_erase]
    split
    · simp
    · exact h other

theorem destroy (now : Nat) (keys : List String) : (Keyspace.destroy now keys k).2.Sound := by
  intro key
  rw [getElem?_destroy]
  split
  · simp
  · exact h key

/-- An evaluation keeps every entry sound. -/
theorem eval (now : Nat) (r : Request) : (k.eval now r).2.Sound := by
  unfold Keyspace.eval
  split
  · exact h.tick now
  · next a _ =>
    cases named : a.key? with
    | some key =>
      rw [perform_eq _ now named]
      exact ((h.tick now).touch now key).change key (a.effect_sound now ((h.tick now).live now key))
    | none =>
      cases a with
      | destroy keys => exact (h.tick now).destroy now keys
      | _ => simp [Action.key?] at named

/-- So does every access. -/
theorem access (now : Nat) (x : Access) : (k.access now x).2.Sound := by
  cases x with
  | eval r => exact h.eval now r
  | contains key => exact h.touch now key
  | timeLeft key => exact h.touch now key
  | clear =>
    intro key e stored
    simp [Keyspace.access, Keyspace.clear] at stored

/-- So do accesses one after the other. -/
theorem replay (run : List (Nat × Access)) : (Turnstile.replay Keyspace.access run k).2.Sound := by
  induction run generalizing k with
  | nil => exact h
  | cons x run ih => exact ih (h.access x.1 x.2)

end Sound

end Keyspace

end Turnstile
