import Turnstile.Proofs.Json.Written

/-!
# Every text of a value

A value can be written in many ways : gaps stand anywhere between its parts, a character of a text
may be escaped or not, a number may have decimals and an exponent. A `Tree` is one way to write one
value, to any depth, and `Tree.write` is its text. The parts of a tree are those of the grammar and
no others : the digits before the point of a number are those of a natural number, and quoted text
is a row of `Piece`s.

What a quoted text means is not part of the grammar. An escape may name half a pair of surrogates,
and a text in which such a half stands alone means nothing (`meaning?`). A text that means something
is read as what it means (`readText_pieces`).
-/

namespace Turnstile.Json

open Text

/-! ## Quoted text -/

/-- A hexadecimal digit in either case. -/
structure HexDigit where
  char : Char
  value : Nat
  stands : hexValue? char = some value := by decide
deriving DecidableEq

/-- The four digits that name a code unit. -/
structure CodeUnit where
  first : HexDigit
  second : HexDigit
  third : HexDigit
  fourth : HexDigit
deriving DecidableEq

/-- The number that the digits make. -/
def CodeUnit.value (u : CodeUnit) : Nat :=
  ((u.first.value * 16 + u.second.value) * 16 + u.third.value) * 16 + u.fourth.value

/-- What may stand between quotes for a character, or for half of one. -/
inductive Piece where
  /-- A character that stands for itself. -/
  | plain (c : Char) (allowed : c ≠ '"' ∧ c ≠ '\\' ∧ 0x20 ≤ c.toNat := by decide)
  /-- A letter after a backslash. -/
  | letter (c meant : Char) (stands : escapedChar? c = some meant := by decide)
  /-- A code unit after `\u`. -/
  | unit (u : CodeUnit)
deriving DecidableEq

def Piece.write : Piece → List Char
  | plain c _ => [c]
  | letter c _ _ => ['\\', c]
  | unit u => ['\\', 'u', u.first.char, u.second.char, u.third.char, u.fourth.char]

/-- The characters that pieces stand for. A surrogate that opens a pair needs the one that closes
it right behind it. -/
def meaning? : List Piece → Option (List Char)
  | [] => some []
  | .plain c _ :: pieces => (meaning? pieces).map (c :: ·)
  | .letter _ meant _ :: pieces => (meaning? pieces).map (meant :: ·)
  | .unit u :: pieces =>
    if isTrailing u.value then none
    else if isLeading u.value then
      match pieces with
      | .unit v :: pieces =>
        if isTrailing v.value then (meaning? pieces).map (pairedChar u.value v.value :: ·) else none
      | _ => none
    else (meaning? pieces).map (Char.ofNat u.value :: ·)

theorem meaning?_unit (u : CodeUnit) (pieces : List Piece) :
    meaning? (.unit u :: pieces) =
      if isTrailing u.value then none
      else if isLeading u.value then
        match pieces with
        | .unit v :: pieces =>
          if isTrailing v.value then (meaning? pieces).map (pairedChar u.value v.value :: ·)
          else none
        | _ => none
      else (meaning? pieces).map (Char.ofNat u.value :: ·) := by
  rw [meaning?.eq_def]

/-- The text that pieces stand for. -/
def textOf? (pieces : List Piece) : Option String := (meaning? pieces).map String.ofList

/-- Pieces up to and with the closing quote. -/
def writePieces (pieces : List Piece) : List Char := pieces.flatMap Piece.write ++ ['"']

@[simp] theorem writePieces_cons (piece : Piece) (pieces : List Piece) :
    writePieces (piece :: pieces) = piece.write ++ writePieces pieces := by
  simp [writePieces]

/-- A digit takes a byte at least. -/
theorem CodeUnit.hasFourBytes (u : CodeUnit) (rest : List Char) :
    hasFourBytes (u.first.char :: u.second.char :: u.third.char :: u.fourth.char :: rest) =
      true := by
  have first := u.first.char.utf8Size_pos
  have second := u.second.char.utf8Size_pos
  have third := u.third.char.utf8Size_pos
  have fourth := u.fourth.char.utf8Size_pos
  refine decide_eq_true ?_
  simp only [List.take_succ_cons, List.take_zero, List.foldr_cons, List.foldr_nil]
  omega

/-- A code unit is read digit by digit, at the front of a character or behind the surrogate
`leading`. -/
theorem CodeUnit.readTextFrom (u : CodeUnit) (leading : Option Nat) (rest : List Char) :
    readTextFrom (leading.elim .plain .partner) ((Piece.unit u).write ++ rest) =
      match TextMove.ofCode leading u.value with
      | .fail fault => .error fault
      | .close => .ok ([], rest)
      | .go spot => Json.readTextFrom spot rest
      | .emit e =>
        match Json.readTextFrom .plain rest with
        | .error fault => .error fault
        | .ok (cs, rest) => .ok (e :: cs, rest) := by
  have four := u.hasFourBytes rest
  have digits : Json.readTextFrom (leading.elim .plain .partner) ((Piece.unit u).write ++ rest) =
      Json.readTextFrom (.digits leading 3 0)
        (u.first.char :: u.second.char :: u.third.char :: u.fourth.char :: rest) := by
    cases leading <;>
      simp [Piece.write, Json.readTextFrom.eq_2 _ '\\', Json.readTextFrom.eq_2 _ 'u', TextSpot.move,
        four]
  rw [digits]
  simp only [Json.readTextFrom, TextSpot.move, u.first.stands, u.second.stands, u.third.stands,
    u.fourth.stands, Nat.zero_mul, Nat.zero_add]
  rfl

/-- Pieces that stand for characters are read as these. -/
theorem readTextFrom_pieces {pieces : List Piece} {cs : List Char}
    (meant : meaning? pieces = some cs) (rest : List Char) :
    readTextFrom .plain (writePieces pieces ++ rest) = .ok (cs, rest) := by
  induction pieces using meaning?.induct generalizing cs with
  | case1 =>
    obtain rfl := Option.some.inj meant
    simp [writePieces, readTextFrom, TextSpot.move]
  | case2 c allowed pieces ih =>
    obtain ⟨cs, later, rfl⟩ := Option.map_eq_some_iff.1 meant
    obtain ⟨quote, slash, low⟩ := allowed
    simp [Piece.write, readTextFrom, TextSpot.move, quote, slash, Nat.not_lt.2 low, ih later]
  | case3 c e stands pieces ih =>
    obtain ⟨cs, later, rfl⟩ := Option.map_eq_some_iff.1 meant
    have unit : c ≠ 'u' := by
      rintro rfl
      cases stands
    simp [Piece.write, readTextFrom, TextSpot.move, unit, stands, ih later]
  | case4 u pieces trailing => simp [meaning?_unit, trailing] at meant
  | case5 u trailing leading v pieces trailing' ih =>
    rw [meaning?_unit, if_neg trailing, if_pos leading] at meant
    simp only [if_pos trailing'] at meant
    obtain ⟨cs, later, rfl⟩ := Option.map_eq_some_iff.1 meant
    have first := u.readTextFrom none (writePieces (.unit v :: pieces) ++ rest)
    have second := v.readTextFrom (some u.value) (writePieces pieces ++ rest)
    simp only [TextMove.ofCode, if_neg trailing, if_pos leading, if_pos trailing',
      writePieces_cons, List.append_assoc, Option.elim_none, Option.elim_some, ih later]
      at first second ⊢
    rw [first, second]
  | case6 u trailing leading v pieces trailing' =>
    simp [meaning?_unit, trailing, leading, trailing'] at meant
  | case7 u pieces trailing leading last =>
    rw [meaning?_unit, if_neg trailing, if_pos leading] at meant
    split at meant
    · next v pieces => exact (last v pieces rfl).elim
    · cases meant
  | case8 u pieces trailing leading ih =>
    rw [meaning?_unit, if_neg trailing, if_neg leading] at meant
    obtain ⟨cs, later, rfl⟩ := Option.map_eq_some_iff.1 meant
    have only := u.readTextFrom none (writePieces pieces ++ rest)
    simp only [TextMove.ofCode, if_neg trailing, if_neg leading, Option.elim_none, ih later] at only
    rw [writePieces_cons, List.append_assoc, only]

/-- Pieces that stand for a text are read as it. -/
theorem readText_pieces {pieces : List Piece} {s : String} (meant : textOf? pieces = some s)
    (rest : List Char) : readText (writePieces pieces ++ rest) = .ok (s, rest) := by
  obtain ⟨cs, characters, rfl⟩ := Option.map_eq_some_iff.1 meant
  simp [readText, readTextFrom_pieces characters]

/-! ## Numbers -/

/-- One decimal digit or more. -/
structure Digits where
  chars : List Char
  filled : chars ≠ [] := by decide
  all : chars.all Char.isDigit = true := by decide
deriving DecidableEq

/-- The exponent of a number. -/
structure Exponent where
  mark : Char
  isMark : mark ∈ ['e', 'E'] := by decide
  sign : Option Char := none
  isSign : sign ∈ [none, some '+', some '-'] := by decide
  digits : Digits
deriving DecidableEq

/-- A number. -/
structure Numeral where
  isNegative : Bool := false
  whole : Nat
  decimals : Option Digits := none
  exponent : Option Exponent := none
deriving DecidableEq

def writeDecimals : Option Digits → List Char
  | none => []
  | some ds => '.' :: ds.chars

def writeExponent : Option Exponent → List Char
  | none => []
  | some e => e.mark :: (e.sign.toList ++ e.digits.chars)

def Numeral.write (n : Numeral) : List Char :=
  (if n.isNegative then ['-'] else []) ++
    (writeNat n.whole ++ (writeDecimals n.decimals ++ writeExponent n.exponent))

/-! ## Trees -/

/-- The values that are words. -/
inductive Word where
  | null
  | true
  | false
deriving DecidableEq

def Word.write : Word → List Char
  | null => ['n', 'u', 'l', 'l']
  | true => ['t', 'r', 'u', 'e']
  | false => ['f', 'a', 'l', 's', 'e']

/-- An item of a list : a value between two gaps. -/
structure Item (τ : Type) where
  before : Gap := {}
  value : τ
  after : Gap := {}

/-- A member of an object : gaps may stand around its name and around its value. -/
structure Member (τ : Type) where
  before : Gap := {}
  name : List Piece
  colon : Gap := {}
  gap : Gap := {}
  value : τ
  after : Gap := {}

/-- A value as it is written. A gap may stand behind an opening bracket even where nothing
follows. -/
inductive Tree where
  | word (w : Word)
  | number (n : Numeral)
  | text (pieces : List Piece)
  | list (inner : Gap) (items : List (Item Tree))
  | object (inner : Gap) (members : List (Member Tree))

mutual

/-- The text of a value. -/
def Tree.write : Tree → List Char
  | .word w => w.write
  | .number n => n.write
  | .text pieces => '"' :: writePieces pieces
  | .list inner items => '[' :: (inner.chars ++ (separated (writeItems items) ++ [']']))
  | .object inner members =>
    '\x7b' :: (inner.chars ++ (separated (writeMembers members) ++ ['\x7d']))

/-- The texts of the values of a list. -/
def writeItems : List (Item Tree) → List (List Char)
  | [] => []
  | ⟨before, value, after⟩ :: items =>
    (before.chars ++ (value.write ++ after.chars)) :: writeItems items

/-- The texts of the members of an object. -/
def writeMembers : List (Member Tree) → List (List Char)
  | [] => []
  | ⟨before, name, colon, gap, value, after⟩ :: members =>
    (before.chars ++ '"' :: (writePieces name ++
      (colon.chars ++ ':' :: ((gap.chars ++ value.write) ++ after.chars)))) :: writeMembers members

end

/-- The text of an item of a list. -/
def Item.text (i : Item Tree) : List Char := i.before.chars ++ (i.value.write ++ i.after.chars)

/-- The text of a member of an object. -/
def Member.text (m : Member Tree) : List Char :=
  m.before.chars ++ '"' :: (writePieces m.name ++
    (m.colon.chars ++ ':' :: ((m.gap.chars ++ m.value.write) ++ m.after.chars)))

/-- A value as a whole text, with a gap at either end. -/
def Tree.document (before : Gap) (t : Tree) (after : Gap) : String :=
  String.ofList ((before.chars ++ t.write) ++ after.chars)

end Turnstile.Json
