import Mathlib.Data.String.Basic

/-!
# The order of texts is that of their bytes

Texts are ordered by the code points of their characters. In UTF-8 a character with a greater
code point has the greater bytes, and it has them at the first place where two characters
differ. So texts are in the order of their bytes : `bytes_lt_of_lt`, `le_iff_bytes_le`.
-/

namespace Turnstile.Text

/-- The bytes of a text in UTF-8. -/
def bytes (s : String) : List UInt8 := s.toUTF8.data.toList

theorem bytes_eq_flatMap (s : String) : bytes s = s.toList.flatMap String.utf8EncodeChar := by
  unfold bytes
  rw [String.toUTF8_eq_toByteArray, ← String.utf8Encode_toList, List.utf8Encode]
  simp

theorem ofNat_lt_iff {m n : Nat} (hm : m < 256) (hn : n < 256) :
    UInt8.ofNat m < UInt8.ofNat n ↔ m < n := by
  rw [UInt8.lt_iff_toNat_lt, UInt8.toNat_ofNat', UInt8.toNat_ofNat', Nat.mod_eq_of_lt hm,
    Nat.mod_eq_of_lt hn]

theorem ofNat_inj {m n : Nat} (hm : m < 256) (hn : n < 256) :
    UInt8.ofNat m = UInt8.ofNat n ↔ m = n := by
  rw [← UInt8.toNat_inj, UInt8.toNat_ofNat', UInt8.toNat_ofNat', Nat.mod_eq_of_lt hm,
    Nat.mod_eq_of_lt hn]

/-- A character with a smaller code point has smaller bytes, whatever follows. -/
theorem utf8EncodeChar_append_lt {c d : Char} (h : c < d) (rest rest' : List UInt8) :
    String.utf8EncodeChar c ++ rest < String.utf8EncodeChar d ++ rest' := by
  have less : c.val.toNat < d.val.toNat := h
  have bound : d.val.toNat < 0x110000 := by
    have valid : d.val.toNat.isValidChar := d.valid
    unfold Nat.isValidChar at valid
    omega
  unfold String.utf8EncodeChar
  generalize c.val.toNat = v at *
  generalize d.val.toNat = w at *
  have div₂ (n : Nat) : n / 4096 = n / 64 / 64 := by omega
  have div₃ (n : Nat) : n / 262144 = n / 64 / 64 / 64 := by omega
  have top_v : v / 64 / 64 / 64 < 8 := by omega
  have top_w : w / 64 / 64 / 64 < 8 := by omega
  dsimp only
  -- the first place that differs is a digit of the code point, or the mark of its length
  split_ifs <;>
    simp (disch := omega) only [List.cons_append, List.nil_append, List.cons_lt_cons_iff,
      ofNat_lt_iff, ofNat_inj, div₂, div₃] <;>
    omega

/-- Character by character, the order of code points is that of bytes. -/
theorem flatMap_utf8EncodeChar_lt : ∀ {cs ds : List Char}, cs < ds →
    cs.flatMap String.utf8EncodeChar < ds.flatMap String.utf8EncodeChar
  | [], [], h => absurd h (List.not_lt_nil _)
  | [], d :: ds, _ => by
    rw [List.flatMap_nil, List.flatMap_cons]
    cases bytes : String.utf8EncodeChar d with
    | nil => exact absurd bytes (String.utf8EncodeChar_ne_nil)
    | cons b bs => exact List.nil_lt_cons _ _
  | c :: cs, [], h => absurd h (List.not_lt_nil _)
  | c :: cs, d :: ds, h => by
    rw [List.flatMap_cons, List.flatMap_cons]
    rcases List.cons_lt_cons_iff.1 h with less | ⟨rfl, later⟩
    · exact utf8EncodeChar_append_lt less _ _
    · exact List.append_left_lt (flatMap_utf8EncodeChar_lt later)

theorem bytes_lt_of_lt {s t : String} (h : s < t) : bytes s < bytes t := by
  rw [bytes_eq_flatMap, bytes_eq_flatMap]
  exact flatMap_utf8EncodeChar_lt h

/-- Texts are in the order of their bytes. -/
theorem le_iff_bytes_le (s t : String) : s ≤ t ↔ bytes s ≤ bytes t := by
  constructor
  · intro h
    rcases lt_or_eq_of_le h with less | rfl
    · exact List.le_of_lt (bytes_lt_of_lt less)
    · exact List.le_refl _
  · intro h
    by_contra greater
    exact h (bytes_lt_of_lt (lt_of_not_ge greater))

end Turnstile.Text
