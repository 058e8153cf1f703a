/-!
# Reading JSON from left to right

A reader takes the front of a text and gives what it stands for together with the rest. It
stops at the first problem, of which there are three sorts: the text ended too early, it is
not JSON, or it is JSON of the wrong shape for the place where it stands. No reader looks
past the first problem, so the sort that is reported is that of the leftmost one.
-/

namespace Turnstile.Json

/-- The sorts of problem. -/
inductive Fault where
  /-- The text ended too early. -/
  | truncated
  /-- The text is not JSON. -/
  | malformed
  /-- The text is JSON, of the wrong shape. -/
  | mismatched
deriving DecidableEq, Repr

/-- Takes the front of a text, and gives what it stands for and the rest. -/
abbrev Reader (α : Type) := List Char → Except Fault (α × List Char)

/-- The four characters that may stand between the parts of a text. -/
def isGap (c : Char) : Bool := c == ' ' || c == '\n' || c == '\t' || c == '\r'

/-- A text without the gap at its front. -/
def skipGap (cs : List Char) : List Char := cs.dropWhile isGap

/-- Reads just the given characters. -/
def word : List Char → List Char → Except Fault (List Char)
  | [], cs => .ok cs
  | _ :: _, [] => .error .truncated
  | w :: ws, c :: cs => if c = w then word ws cs else .error .malformed

/-- Reads a whole text, which may end in a gap. -/
def parse {α : Type} (read : Reader α) (s : String) : Except Fault α :=
  match read s.toList with
  | .error fault => .error fault
  | .ok (a, rest) =>
    match skipGap rest with
    | [] => .ok a
    | _ :: _ => .error .malformed

theorem skipGap_cons {c : Char} {cs : List Char} (h : isGap c = false) :
    skipGap (c :: cs) = c :: cs := by
  simp [skipGap, h]

end Turnstile.Json
