import Turnstile.Identity.Token
import Turnstile.Proofs.Text.ByteOrder
import Turnstile.Text.Utf8

/-!
# Texts and their bytes

A text and its bytes in UTF-8 stand for each other : bytes that are those of a text are read
as that text and no other (`exactText?_eq_some`). No character's bytes begin another's, so a
text begins with another just if its bytes do (`bytes_isPrefix_iff`). The decimal texts of
integers are read back from their bytes.
-/

namespace Turnstile.Text

theorem exactText?_eq_some {b : List UInt8} {s : String} :
    exactText? b = some s ↔ bytes s = b := by
  unfold exactText? bytes String.fromUTF8?
  constructor
  · intro h
    split at h
    · cases h
      rfl
    · cases h
  · rintro rfl
    exact dif_pos s.isValidUTF8

theorem exactText?_bytes (s : String) : exactText? (bytes s) = some s := exactText?_eq_some.2 rfl

theorem bytes_inj {s t : String} : bytes s = bytes t ↔ s = t := by
  constructor
  · intro h
    exact Option.some.inj ((exactText?_bytes s).symm.trans (exactText?_eq_some.2 h.symm))
  · rintro rfl
    rfl

/-- No character's bytes begin with those of another. -/
theorem eq_of_utf8EncodeChar_append {c d : Char} {rest rest' : List UInt8}
    (h : String.utf8EncodeChar c ++ rest = String.utf8EncodeChar d ++ rest') : c = d := by
  rcases lt_trichotomy c d with less | same | greater
  · exact absurd (h ▸ utf8EncodeChar_append_lt less rest rest') (List.lt_irrefl _)
  · exact same
  · exact absurd (h ▸ utf8EncodeChar_append_lt greater rest' rest) (List.lt_irrefl _)

theorem flatMap_isPrefix_iff : ∀ {cs ds : List Char},
    cs.flatMap String.utf8EncodeChar <+: ds.flatMap String.utf8EncodeChar ↔ cs <+: ds
  | [], ds => by simp
  | c :: cs, [] => by simp
  | c :: cs, d :: ds => by
    rw [List.flatMap_cons, List.flatMap_cons, List.cons_prefix_cons]
    constructor
    · rintro ⟨rest, h⟩
      rw [List.append_assoc] at h
      obtain rfl := eq_of_utf8EncodeChar_append h
      exact ⟨rfl, flatMap_isPrefix_iff.1 ⟨rest, List.append_cancel_left h⟩⟩
    · rintro ⟨rfl, h⟩
      exact (List.prefix_append_right_inj _).2 (flatMap_isPrefix_iff.2 h)

/-- A text begins with another just if its bytes begin with those of the other. -/
theorem bytes_isPrefix_iff (start s : String) : bytes start <+: bytes s ↔ startsWith s start := by
  rw [bytes_eq_flatMap, bytes_eq_flatMap, flatMap_isPrefix_iff, startsWith,
    List.isPrefixOf_iff_prefix]

namespace Decimal

theorem readInt?_ofInt (n : Int) : readInt? (ofInt n).toList = some n := by
  cases n with
  | ofNat n =>
    simp [ofInt, ofNat, readInt?_of_isDigit fun c => isDigit_of_mem_toDigits, readDigits?_toDigits]
  | negSucc n =>
    simp [ofInt, ofNat, readInt?, readDigits?_toDigits, Int.negSucc_eq]

end Decimal

end Turnstile.Text
