import Turnstile.Text.Hexadecimal

/-!
# Percent-encoded text

In a URL a percent sign and two hexadecimal digits stand for a byte. `percentDecoded` gives
the bytes of such a text, which need not be those of a text again.
-/

namespace Turnstile.Text

/-- The bytes of a percent-encoded text. A percent sign without two digits behind it stands
for itself. -/
def percentDecoded : List Char → List UInt8
  | '%' :: a :: b :: rest =>
    match hexValue? a, hexValue? b with
    | some m, some n => UInt8.ofNat (16 * m + n) :: percentDecoded rest
    | _, _ => 0x25 :: percentDecoded (a :: b :: rest)
  | c :: rest => String.utf8EncodeChar c ++ percentDecoded rest
  | [] => []

end Turnstile.Text
