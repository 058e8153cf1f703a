import Mathlib.Data.List.Basic
import Std.Data.String.ToNat
import Turnstile.Identity.Token
import Turnstile.Text.Decimal

/-!
# Whose token a text is

The thread and the serial number of a token have no colons, so its text can be read from the
end in one way only : `Token.text_injective`. If its host has none either, it can be read
from the start as well, and it begins with the owner of another such token exactly if both
have the same host and thread (`Token.sameOwner_text_iff`).
-/

namespace Turnstile

/-- Two rows of characters that are equal up to the first separator of each are equal before and
after it. -/
theorem split_separator {c : Char} : ∀ {x y z w : List Char}, c ∉ x → c ∉ y →
    x ++ c :: z = y ++ c :: w → x = y ∧ z = w
  | [], [], _, _, _, _, h => ⟨rfl, (List.cons.inj h).2⟩
  | [], _ :: _, _, _, _, hy, h => absurd (List.cons.inj h).1 (List.ne_of_not_mem_cons hy)
  | _ :: _, [], _, _, hx, _, h => absurd (List.cons.inj h).1.symm (List.ne_of_not_mem_cons hx)
  | d :: x, e :: y, _, _, hx, hy, h => by
    obtain ⟨rfl, rest⟩ := List.cons.inj h
    obtain ⟨rfl, same⟩ := split_separator (List.not_mem_of_not_mem_cons hx)
      (List.not_mem_of_not_mem_cons hy) rest
    exact ⟨rfl, same⟩

/-- The same from the end, by the last separator of each. -/
theorem split_last_separator {c : Char} {x y z w : List Char} (hz : c ∉ z) (hw : c ∉ w)
    (h : x ++ c :: z = y ++ c :: w) : x = y ∧ z = w := by
  have back := congrArg List.reverse h
  simp only [List.reverse_append, List.reverse_cons, List.append_assoc, List.singleton_append]
    at back
  obtain ⟨after, before⟩ := split_separator (by simpa using hz) (by simpa using hw) back
  exact ⟨List.reverse_injective before, List.reverse_injective after⟩

theorem notMem_toString {c : Char} (h : c.isDigit = false) (n : Nat) : c ∉ (toString n).toList := by
  rw [Nat.toString_eq_repr, Nat.toList_repr]
  intro mem
  simp [Text.Decimal.isDigit_of_mem_toDigits mem] at h

theorem colon_notMem_toString (n : Nat) : ':' ∉ (toString n).toList := notMem_toString rfl n

namespace Token

theorem toList_owner (t : Token) :
    t.owner.toList = t.host.toList ++ ':' :: (t.thread.toList ++ [':']) := by
  simp [owner]

theorem toList_text (t : Token) :
    t.text.toList =
      t.host.toList ++ ':' :: (t.thread.toList ++ ':' :: (toString t.serial.toNat).toList) := by
  simp [text, toList_owner]

variable {a b : Token}

/-- Tokens whose threads have no colons are known by their texts. -/
theorem text_injective (ha : ':' ∉ a.thread.toList) (hb : ':' ∉ b.thread.toList)
    (h : a.text = b.text) : a = b := by
  have same : (a.host.toList ++ ':' :: a.thread.toList) ++ ':' :: (toString a.serial.toNat).toList =
      (b.host.toList ++ ':' :: b.thread.toList) ++ ':' :: (toString b.serial.toNat).toList := by
    simpa [toList_text] using congrArg String.toList h
  obtain ⟨front, serial⟩ :=
    split_last_separator (colon_notMem_toString _) (colon_notMem_toString _) same
  obtain ⟨host, thread⟩ := split_last_separator ha hb front
  have serial := Nat.repr_injective (String.toList_inj.1 serial)
  have thread := String.toList_inj.1 thread
  have host := String.toList_inj.1 host
  cases a
  cases b
  simp_all [UInt64.toNat_inj]

/-- The owner of a token is its host and its thread. -/
theorem sameOwner_text_iff (hosts : ':' ∉ a.host.toList ∧ ':' ∉ b.host.toList)
    (threads : ':' ∉ a.thread.toList ∧ ':' ∉ b.thread.toList) :
    a.sameOwner b.text ↔ a.host = b.host ∧ a.thread = b.thread := by
  unfold sameOwner startsWith
  rw [List.isPrefixOf_iff_prefix]
  constructor
  · rintro ⟨rest, same⟩
    rw [toList_owner, toList_text] at same
    simp only [List.append_assoc, List.cons_append, List.nil_append] at same
    obtain ⟨host, same⟩ := split_separator hosts.1 hosts.2 same
    obtain ⟨thread, -⟩ := split_separator threads.1 threads.2 same
    exact ⟨String.toList_inj.1 host, String.toList_inj.1 thread⟩
  · rintro ⟨host, thread⟩
    refine ⟨(toString b.serial.toNat).toList, ?_⟩
    rw [toList_owner, toList_text, host, thread]
    simp

end Token

namespace TokenSource

/-- A source makes tokens whose threads have no colons. -/
theorem colon_notMem_thread (s : TokenSource) (thread : Nat) (serial : UInt64) :
    ':' ∉ (s.token thread serial).thread.toList := by
  have process := colon_notMem_toString s.process
  have number := colon_notMem_toString thread
  simp only [token, String.toList_append, List.mem_append, not_or]
  exact ⟨⟨process, by decide⟩, number⟩

/-- The thread of a token tells the process and the thread in it. -/
theorem thread_eq_iff {s s' : TokenSource} {thread thread' : Nat} {serial serial' : UInt64} :
    (s.token thread serial).thread = (s'.token thread' serial').thread ↔
      s.process = s'.process ∧ thread = thread' := by
  constructor
  · intro same
    have same : (toString s.process).toList ++ '.' :: (toString thread).toList =
        (toString s'.process).toList ++ '.' :: (toString thread').toList := by
      simpa [token] using congrArg String.toList same
    obtain ⟨process, number⟩ := split_separator (notMem_toString rfl _) (notMem_toString rfl _) same
    exact ⟨Nat.repr_injective (String.toList_inj.1 process),
      Nat.repr_injective (String.toList_inj.1 number)⟩
  · rintro ⟨process, rfl⟩
    simp only [token, process]

end TokenSource

end Turnstile
