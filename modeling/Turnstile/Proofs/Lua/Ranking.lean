import Mathlib.Data.List.Sort
import Turnstile.Proofs.Lua.Dataset
import Turnstile.Proofs.Store.Sound
import Turnstile.Proofs.Text.Bytes

/-!
# Sorted sets as a server keeps them

A server keeps the members of a sorted set in a row, each with its score. `SortedSet.ranking`
is the row of a sorted set of the keyspace : its places in their order, with the bytes of
their payloads. What the keyspace does to a sorted set, a server does to its row
(`SortedSet.Agrees.ranking_insert`, `SortedSet.Agrees.ranking_erase`), and both see the same
in it.
-/

namespace Turnstile

namespace Lua

/-! ## The order of members -/

namespace Ranked

theorem AtMost.antisymm {a b : Ranked} (h : a.AtMost b) (h' : b.AtMost a) : a = b := by
  obtain ⟨score, member⟩ := a
  obtain ⟨score', member'⟩ := b
  rcases h with less | ⟨rfl, le⟩
  · rcases h' with less' | ⟨same, -⟩
    · exact absurd (less.trans less') (lt_irrefl _)
    · exact absurd same less.ne'
  · rcases h' with less' | ⟨-, le'⟩
    · exact absurd less' (lt_irrefl _)
    · exact congrArg _ (List.le_antisymm le le')

instance : Std.Total Ranked.AtMost where
  total a b := by
    rcases lt_trichotomy a.score b.score with less | same | greater
    · exact .inl (.inl less)
    · rcases List.le_total a.member b.member with le | le
      · exact .inl (.inr ⟨same, le⟩)
      · exact .inr (.inr ⟨same.symm, le⟩)
    · exact .inr (.inl greater)

instance : IsTrans Ranked Ranked.AtMost where
  trans a b c h h' := by
    rcases h with less | ⟨same, le⟩
    · rcases h' with less' | ⟨same', -⟩
      · exact .inl (less.trans less')
      · exact .inl (same' ▸ less)
    · rcases h' with less' | ⟨same', le'⟩
      · exact .inl (same ▸ less')
      · exact .inr ⟨same.trans same', List.le_trans le le'⟩

/-- A place as a member. -/
def ofSlot (slot : Slot) : Ranked := ⟨slot.score, Text.bytes slot.payload⟩

theorem ofSlot_injective : Function.Injective ofSlot := by
  intro a b h
  obtain ⟨score, member⟩ := Ranked.mk.inj h
  exact Slot.mk_eq_iff.2 ⟨score, Text.bytes_inj.1 member⟩

end Ranked

/-- Two rows in order that have the same members are the same. -/
theorem eq_of_mem_iff {l l' : List Ranked} (ordered : l.Pairwise Ranked.AtMost)
    (ordered' : l'.Pairwise Ranked.AtMost) (once : l.Nodup) (once' : l'.Nodup)
    (same : ∀ x, x ∈ l ↔ x ∈ l') : l = l' :=
  List.Perm.eq_of_pairwise (fun _ _ _ _ => Ranked.AtMost.antisymm) ordered ordered'
    ((List.perm_ext_iff_of_nodup once once').2 same)

section Rows

variable {member : Bytes} {set : List Ranked} {x : Ranked}

theorem mem_without : x ∈ without member set ↔ x ∈ set ∧ x.member ≠ member := by
  simp [without]

theorem mem_ranked {score : Int} :
    x ∈ ranked score member set ↔ x = ⟨score, member⟩ ∨ x ∈ set ∧ x.member ≠ member := by
  rw [ranked, List.mem_orderedInsert, mem_without]

theorem pairwise_without (ordered : set.Pairwise Ranked.AtMost) :
    (without member set).Pairwise Ranked.AtMost :=
  ordered.filter _

theorem pairwise_ranked (score : Int) (ordered : set.Pairwise Ranked.AtMost) :
    (ranked score member set).Pairwise Ranked.AtMost :=
  (pairwise_without ordered).orderedInsert _ _

theorem nodup_ranked (score : Int) (once : set.Nodup) : (ranked score member set).Nodup := by
  unfold ranked
  rw [(List.perm_orderedInsert _ _ _).nodup_iff, List.nodup_cons, mem_without]
  exact ⟨fun h => h.2 rfl, once.filter _⟩

theorem isEmpty_ranked (score : Int) (member : Bytes) (set : List Ranked) :
    (ranked score member set).isEmpty = false := by
  rw [List.isEmpty_eq_false_iff, ← List.length_pos_iff, ranked, List.orderedInsert_length]
  exact Nat.succ_pos _

end Rows

end Lua

/-! ## The row of a sorted set -/

namespace SortedSet

open Lua

/-- The members of a sorted set in their order. -/
def ranking (s : SortedSet) : List Ranked := s.slots.toList.map Ranked.ofSlot

variable (s : SortedSet)

theorem pairwise_ranking : s.ranking.Pairwise Ranked.AtMost := by
  unfold ranking
  rw [List.pairwise_map]
  refine Std.TreeSet.ordered_toList.imp fun {a b} before => ?_
  exact Slot.isLE_order.1 (by simp [before])

theorem nodup_slots : s.slots.toList.Nodup := by
  refine Std.TreeSet.ordered_toList.imp fun {a b} before => ?_
  rintro rfl
  cases Std.ReflCmp.compare_self.symm.trans before

theorem nodup_ranking : s.ranking.Nodup := s.nodup_slots.map Ranked.ofSlot_injective

theorem ranking_empty : ({} : SortedSet).ranking = [] := rfl

theorem head?_ranking : s.ranking.head? = s.first?.map Ranked.ofSlot := by
  rw [ranking, List.head?_map, first?, Std.TreeSet.min?_eq_head?_toList]

theorem erase_of_not_contains {s : SortedSet} {payload : String}
    (absent : s.contains payload = false) : s.erase payload = s := by
  have none : s.score? payload = none :=
    Option.isNone_iff_eq_none.1 (Option.isSome_eq_false_iff.1 absent)
  unfold erase
  split
  · next found => cases none.symm.trans found
  · rfl

namespace Agrees

variable {s} (h : s.Agrees) (payload : String)

include h

theorem mem_ranking (x : Ranked) :
    x ∈ s.ranking ↔ ∃ payload, x.member = Text.bytes payload ∧ s.score? payload = some x.score := by
  rw [ranking, List.mem_map]
  constructor
  · rintro ⟨slot, mem, rfl⟩
    exact ⟨slot.payload, rfl, (h slot).1 (Std.TreeSet.mem_toList.1 mem)⟩
  · rintro ⟨payload, member, score⟩
    refine ⟨⟨x.score, payload⟩, Std.TreeSet.mem_toList.2 ((h _).2 score), ?_⟩
    rw [Ranked.ofSlot, ← member]

theorem ranking_insert (score : Int) :
    (s.insert payload score).ranking = ranked score (Text.bytes payload) s.ranking := by
  refine eq_of_mem_iff (pairwise_ranking _) (pairwise_ranked _ s.pairwise_ranking)
    (nodup_ranking _) (nodup_ranked _ s.nodup_ranking) fun x => ?_
  obtain ⟨n, member⟩ := x
  rw [mem_ranked, (h.insert payload score).mem_ranking, h.mem_ranking]
  constructor
  · rintro ⟨p, rfl, found⟩
    rw [score?_insert] at found
    split at found
    · next same =>
      obtain rfl := Option.some.inj found
      exact .inl (by rw [same])
    · next other =>
      exact .inr ⟨⟨p, rfl, found⟩, fun same => other (Text.bytes_inj.1 same).symm⟩
  · rintro (same | ⟨⟨p, rfl, found⟩, other⟩)
    · obtain ⟨rfl, rfl⟩ := Ranked.mk.inj same
      exact ⟨payload, rfl, by rw [score?_insert, if_pos rfl]⟩
    · refine ⟨p, rfl, ?_⟩
      rw [score?_insert, if_neg fun same => other (congrArg Text.bytes same.symm)]
      exact found

theorem ranking_erase :
    (s.erase payload).ranking = without (Text.bytes payload) s.ranking := by
  refine eq_of_mem_iff (pairwise_ranking _) (pairwise_without s.pairwise_ranking)
    (nodup_ranking _) (s.nodup_ranking.filter _) fun x => ?_
  obtain ⟨n, member⟩ := x
  rw [mem_without, (h.erase payload).mem_ranking, h.mem_ranking]
  constructor
  · rintro ⟨p, rfl, found⟩
    rw [score?_erase] at found
    split at found
    · cases found
    · next other =>
      exact ⟨⟨p, rfl, found⟩, fun same => other (Text.bytes_inj.1 same).symm⟩
  · rintro ⟨⟨p, rfl, found⟩, other⟩
    refine ⟨p, rfl, ?_⟩
    rw [score?_erase, if_neg fun same => other (congrArg Text.bytes same.symm)]
    exact found

theorem hasMember_ranking : hasMember (Text.bytes payload) s.ranking = s.contains payload := by
  rw [Bool.eq_iff_iff, hasMember, List.any_eq_true, contains, Option.isSome_iff_exists]
  constructor
  · rintro ⟨x, mem, same⟩
    obtain ⟨p, member, found⟩ := (h.mem_ranking x).1 mem
    obtain rfl := Text.bytes_inj.1 (member.symm.trans (of_decide_eq_true same))
    exact ⟨_, found⟩
  · rintro ⟨n, found⟩
    exact ⟨⟨n, Text.bytes payload⟩, (h.mem_ranking _).2 ⟨payload, rfl, found⟩, by simp⟩

/-- The row is as long as the set is large. -/
theorem length_ranking : s.ranking.length = s.size := by
  obtain ⟨payloads, mem, card⟩ := s.exists_card_eq_size
  -- each payload has one place, and the places are all that is in the row
  have row : (s.slots.toList.map Slot.payload).toFinset = payloads := by
    ext p
    rw [List.mem_toFinset, List.mem_map, mem, Option.isSome_iff_exists]
    constructor
    · rintro ⟨slot, present, rfl⟩
      exact ⟨_, (h slot).1 (Std.TreeSet.mem_toList.1 present)⟩
    · rintro ⟨n, found⟩
      exact ⟨⟨n, p⟩, Std.TreeSet.mem_toList.2 ((h ⟨n, p⟩).2 found), rfl⟩
  have once : (s.slots.toList.map Slot.payload).Nodup := by
    refine s.nodup_slots.map_on fun a mem b mem' same => ?_
    exact h.eq_of_payload (Std.TreeSet.mem_toList.1 mem) (Std.TreeSet.mem_toList.1 mem') same
  rw [← card, ← row, List.toFinset_card_of_nodup once, List.length_map, ranking, List.length_map]

end Agrees

end SortedSet

end Turnstile
