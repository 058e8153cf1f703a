import Turnstile.Json.Skip
import Turnstile.Proofs.Json.Tree

/-!
# Every value is passed over

The value of an unknown field is skipped by a machine that holds its spot and the brackets that are
open around it. `Passes text` : from the start of a value, under any open brackets, the machine
takes just `text` and stands where it stands after a value. Words, texts and numbers pass, and a
bracketed value passes if each of its parts does, whatever gaps stand between them; so every tree
passes, to any depth (`Tree.passes`). The texts in it need not mean anything, and its numbers may be
of any size.
-/

namespace Turnstile.Json

open Text

/-- What is left to be skipped after a whole value. -/
def skipped : List Bracket → List Char → Except Fault (List Char)
  | [], rest => .ok rest
  | b :: bs, rest => skipFrom .after (b :: bs) rest

/-- A text is taken as a value, whatever brackets are open and whatever follows. -/
def Passes (text : List Char) : Prop :=
  ∀ bs rest, EndsValue rest → skipFrom .value bs (text ++ rest) = skipped bs rest

variable {bs : List Bracket} {rest : List Char}

/-! ## Steps -/

/-- A character that leaves the machine at a spot. -/
theorem skipFrom_go {spot spot' : SkipSpot} {bs' : List Bracket} {c : Char}
    (move : spot.move bs c rest = .go spot' bs') :
    skipFrom spot bs (c :: rest) = skipFrom spot' bs' rest := by
  rw [skipFrom, move]

/-- The last character of a value. -/
theorem skipFrom_complete {spot : SkipSpot} {c : Char}
    (move : spot.move bs c rest = SkipMove.complete bs) :
    skipFrom spot bs (c :: rest) = skipped bs rest := by
  rw [skipFrom, move]
  cases bs <;> rfl

/-- Characters that leave the machine where it is. -/
theorem skipFrom_stay {spot : SkipSpot} {cs : List Char}
    (stay : ∀ c ∈ cs, ∀ rest, spot.move bs c rest = .go spot bs) :
    skipFrom spot bs (cs ++ rest) = skipFrom spot bs rest := by
  induction cs with
  | nil => rfl
  | cons c cs ih =>
    obtain ⟨first, stay⟩ := List.forall_mem_cons.1 stay
    rw [List.cons_append, skipFrom_go (first _), ih stay]

/-- The spots between the parts of a value. -/
@[simp] def SkipSpot.IsBetween : SkipSpot → List Bracket → Prop
  | .value, _ => True
  | .member, _ => True
  | .colon, _ => True
  | .opened, bs => bs ≠ []
  | .after, bs => bs ≠ []
  | _, _ => False

/-- A gap between two parts is passed over. -/
theorem skipFrom_gap {spot : SkipSpot} (between : spot.IsBetween bs) (g : Gap) :
    skipFrom spot bs (g.chars ++ rest) = skipFrom spot bs rest := by
  refine skipFrom_stay fun c mem rest => ?_
  have gap := g.isGap_of_mem c mem
  cases spot <;> cases bs <;>
    simp_all [SkipSpot.move, SkipMove.atValue, SkipMove.atMember,
      SkipMove.afterOpening, SkipMove.afterValue]

/-! ## Words and texts -/

/-- The rest of a word is taken. -/
theorem skipFrom_word {w : Char} {ws : List Char} :
    skipFrom (.word (w :: ws)) bs (w :: (ws ++ rest)) = skipped bs rest := by
  induction ws generalizing w with
  | nil => exact skipFrom_complete (if_pos rfl)
  | cons w' ws ih =>
    have move : SkipSpot.move (.word (w :: w' :: ws)) bs w (w' :: (ws ++ rest)) =
        .go (.word (w' :: ws)) bs := if_pos rfl
    exact (skipFrom_go move).trans ih

theorem Word.passes (w : Word) : Passes w.write := by
  intro bs rest _
  cases w <;> exact (skipFrom_go rfl).trans skipFrom_word

/-- Whatever stands for a character, or for half of one, leaves the machine inside the text. -/
theorem skipFrom_piece (isName : Bool) (piece : Piece) :
    skipFrom (.text isName) bs (piece.write ++ rest) = skipFrom (.text isName) bs rest := by
  cases piece with
  | plain c allowed =>
    obtain ⟨quote, slash, low⟩ := allowed
    exact skipFrom_go (by simp [SkipSpot.move, quote, slash, Nat.not_lt.2 low])
  | letter c meant stands =>
    have unit : c ≠ 'u' := by
      rintro rfl
      cases stands
    simp [Piece.write, skipFrom, SkipSpot.move, unit, stands]
  | unit u =>
    simp [Piece.write, skipFrom, SkipSpot.move, u.hasFourBytes rest, u.first.stands,
      u.second.stands, u.third.stands, u.fourth.stands]

/-- Quoted text is taken up to and with its closing quote. -/
theorem skipFrom_pieces (isName : Bool) (pieces : List Piece) :
    skipFrom (.text isName) bs (writePieces pieces ++ rest) =
      if isName then skipFrom .colon bs rest else skipped bs rest := by
  induction pieces with
  | nil =>
    cases isName
    · exact skipFrom_complete rfl
    · exact skipFrom_go rfl
  | cons piece pieces ih => rw [writePieces_cons, List.append_assoc, skipFrom_piece, ih]

theorem passes_text (pieces : List Piece) : Passes ('"' :: writePieces pieces) := by
  intro bs rest _
  exact (skipFrom_go rfl).trans (skipFrom_pieces false pieces)

/-! ## Numbers -/

/-- A number may end at some spots. -/
theorem skipFrom_ended {spot : SkipSpot}
    (may : spot ∈ [.zero, .whole, .decimals, .exponentDigits]) (ends : EndsValue rest) :
    skipFrom spot bs rest = skipped bs rest := by
  simp only [List.mem_cons, List.not_mem_nil, or_false] at may
  cases rest with
  | nil => obtain rfl | rfl | rfl | rfl := may <;> cases bs <;> rfl
  | cons c cs =>
    have last := ends c cs rfl
    -- no such character goes on with the number, so it is looked at as after any value
    have move : spot.move bs c cs = SkipMove.afterValue bs c := by
      simp only [List.mem_cons, List.not_mem_nil, or_false] at last
      obtain rfl | rfl | rfl | rfl := may <;>
        obtain rfl | rfl | rfl | rfl | rfl | rfl | rfl := last <;> rfl
    rw [skipFrom, move]
    cases bs <;> rfl

/-- A row of digits is taken by one spot that takes the first and another that takes the rest. -/
theorem skipFrom_digits {spot spot' : SkipSpot} (ds : Digits)
    (first : ∀ c, c.isDigit = true → ∀ rest, spot.move bs c rest = .go spot' bs)
    (later : ∀ c, c.isDigit = true → ∀ rest, spot'.move bs c rest = .go spot' bs) :
    skipFrom spot bs (ds.chars ++ rest) = skipFrom spot' bs rest := by
  obtain ⟨_ | ⟨d, ds⟩, filled, all⟩ := ds
  · exact absurd rfl filled
  · obtain ⟨digit, digits⟩ := List.forall_mem_cons.1 (List.all_eq_true.1 all)
    exact (skipFrom_go (first d digit _)).trans
      (skipFrom_stay fun c mem rest => later c (digits c mem) rest)

theorem SkipMove.atValue_digit {c : Char} (digit : c.isDigit = true) :
    SkipMove.atValue bs c = if c = '0' then .go .zero bs else .go .whole bs := by
  unfold SkipMove.atValue
  rw [if_neg (by simp [isGap_of_isDigit digit])]
  -- no other character at which a value may start is a digit
  split <;> first
    | rfl
    | exact absurd digit (by decide)
    | rw [if_pos digit, if_neg (by assumption)]

/-- Digits start a number, with or without a sign, and a zero is all of it. -/
theorem skipFrom_whole (bs : List Bracket) (isNegative : Bool) (n : Nat) :
    ∃ spot ∈ [SkipSpot.zero, .whole], ∀ rest,
      skipFrom .value bs ((if isNegative then ['-'] else []) ++ (writeNat n ++ rest)) =
        skipFrom spot bs rest := by
  obtain ⟨d, ds, written, digit, digits, zero⟩ := writeNat_eq_cons n
  -- the sign is taken, and what is left starts with a digit either way
  obtain ⟨start, may, signed⟩ : ∃ start ∈ [SkipSpot.value, .sign], ∀ cs,
      skipFrom .value bs ((if isNegative then ['-'] else []) ++ cs) = skipFrom start bs cs := by
    cases isNegative
    · exact ⟨.value, by decide, fun _ => rfl⟩
    · exact ⟨.sign, by decide, fun _ => skipFrom_go rfl⟩
  have move (rest : List Char) : start.move bs d rest =
      if d = '0' then .go .zero bs else .go .whole bs := by
    simp only [List.mem_cons, List.not_mem_nil, or_false] at may
    obtain rfl | rfl := may
    · exact SkipMove.atValue_digit digit
    · simp [SkipSpot.move, SkipMove.needDigit, digit]
  rw [written]
  by_cases this : d = '0'
  · obtain rfl := zero this
    exact ⟨.zero, by decide, fun rest =>
      (signed _).trans (skipFrom_go ((move _).trans (if_pos this)))⟩
  · refine ⟨.whole, by decide, fun rest => (signed _).trans ?_⟩
    refine (skipFrom_go ((move _).trans (if_neg this))).trans (skipFrom_stay ?_)
    exact fun c mem rest => if_pos (digits c mem)

/-- An exponent ends a number, and so does its absence. -/
theorem skipFrom_exponent {spot : SkipSpot} (may : spot ∈ [.zero, .whole, .decimals])
    (e : Option Exponent) (ends : EndsValue rest) :
    skipFrom spot bs (writeExponent e ++ rest) = skipped bs rest := by
  simp only [List.mem_cons, List.not_mem_nil, or_false] at may
  rcases e with _ | ⟨mark, isMark, sign, isSign, ds⟩
  · refine skipFrom_ended ?_ ends
    obtain rfl | rfl | rfl := may <;> decide
  · have marked : skipFrom spot bs ((mark :: (sign.toList ++ ds.chars)) ++ rest) =
        skipFrom .exponent bs (sign.toList ++ (ds.chars ++ rest)) := by
      simp only [List.mem_cons, List.not_mem_nil, or_false] at isMark
      rw [List.cons_append, List.append_assoc]
      obtain rfl | rfl | rfl := may <;> obtain rfl | rfl := isMark <;> exact skipFrom_go rfl
    have last : SkipSpot.exponentDigits ∈ [SkipSpot.zero, .whole, .decimals, .exponentDigits] := by
      decide
    have first (c : Char) (digit : c.isDigit = true) (rest : List Char) :
        SkipSpot.exponent.move bs c rest = .go .exponentDigits bs ∧
          SkipSpot.exponentSign.move bs c rest = .go .exponentDigits bs := by
      simp [SkipSpot.move, SkipMove.needDigit, digit, ne_of_isDigit digit]
    have later (c : Char) (digit : c.isDigit = true) (rest : List Char) :
        SkipSpot.exponentDigits.move bs c rest = .go .exponentDigits bs := if_pos digit
    refine marked.trans (Eq.trans ?_ (skipFrom_ended last ends))
    simp only [List.mem_cons, List.not_mem_nil, or_false] at isSign
    obtain rfl | rfl | rfl := isSign
    · exact skipFrom_digits ds (fun c digit rest => (first c digit rest).1) later
    · exact (skipFrom_go rfl).trans
        (skipFrom_digits ds (fun c digit rest => (first c digit rest).2) later)
    · exact (skipFrom_go rfl).trans
        (skipFrom_digits ds (fun c digit rest => (first c digit rest).2) later)

theorem Numeral.passes (n : Numeral) : Passes n.write := by
  obtain ⟨isNegative, n, decimals, exponent⟩ := n
  intro bs rest ends
  obtain ⟨spot, may, whole⟩ := skipFrom_whole bs isNegative n
  simp only [Numeral.write, List.append_assoc, whole]
  simp only [List.mem_cons, List.not_mem_nil, or_false] at may
  cases decimals with
  | none =>
    refine skipFrom_exponent ?_ exponent ends
    obtain rfl | rfl := may <;> decide
  | some ds =>
    have point (cs : List Char) : skipFrom spot bs ('.' :: cs) = skipFrom .point bs cs := by
      obtain rfl | rfl := may <;> exact skipFrom_go rfl
    have taken (cs : List Char) :
        skipFrom .point bs (ds.chars ++ cs) = skipFrom .decimals bs cs :=
      skipFrom_digits ds (fun c digit rest => if_pos digit) fun c digit rest => if_pos digit
    rw [writeDecimals, List.cons_append, point, taken]
    exact skipFrom_exponent (by decide) exponent ends

/-! ## Brackets -/

/-- The spot behind a comma. -/
def Bracket.next : Bracket → SkipSpot
  | list => .value
  | object => .member

def Bracket.close : Bracket → Char
  | list => ']'
  | object => '\x7d'

theorem Bracket.endsValue_close (b : Bracket) (rest : List Char) : EndsValue (b.close :: rest) := by
  cases b
  · exact .bracket rest
  · exact .brace rest

/-- A part of a bracketed value is taken from behind a comma and, if it is the first, from behind
the opening bracket. -/
def Fits (b : Bracket) (part : List Char) : Prop :=
  ∀ spot ∈ [b.next, .opened], ∀ bs rest, EndsValue rest →
    skipFrom spot (b :: bs) (part ++ rest) = skipFrom .after (b :: bs) rest

/-- Parts with commas between them are taken up to and with the closing bracket. -/
theorem skipFrom_separated {b : Bracket} {parts : List (List Char)} (filled : parts ≠ [])
    (fits : ∀ part ∈ parts, Fits b part) {spot : SkipSpot} (may : spot ∈ [b.next, .opened]) :
    skipFrom spot (b :: bs) (separated parts ++ b.close :: rest) = skipped bs rest := by
  have comma (cs : List Char) :
      skipFrom .after (b :: bs) (',' :: cs) = skipFrom b.next (b :: bs) cs := by
    cases b <;> exact skipFrom_go rfl
  have closed : skipFrom .after (b :: bs) (b.close :: rest) = skipped bs rest := by
    cases b <;> cases bs <;> rfl
  induction parts generalizing spot with
  | nil => exact absurd rfl filled
  | cons part parts ih =>
    obtain ⟨first, later⟩ := List.forall_mem_cons.1 fits
    cases parts with
    | nil => exact (first spot may bs _ (b.endsValue_close rest)).trans closed
    | cons next parts =>
      rw [separated, List.append_assoc, List.cons_append, first spot may bs _ (.comma _), comma]
      · exact ih (by simp) later List.mem_cons_self
      · simp

/-- A bracketed value passes if its parts fit. -/
theorem passes_bracketed {b : Bracket} {opening : Char}
    (opens : ∀ bs rest, SkipSpot.value.move bs opening rest = .go .opened (b :: bs)) (inner : Gap)
    {parts : List (List Char)} (fits : ∀ part ∈ parts, Fits b part) :
    Passes (opening :: (inner.chars ++ (separated parts ++ [b.close]))) := by
  intro bs rest _
  rw [List.cons_append, skipFrom_go (opens bs _), List.append_assoc, List.append_assoc,
    skipFrom_gap (by simp), List.singleton_append]
  by_cases filled : parts = []
  · subst filled
    cases b <;> cases bs <;> rfl
  · exact skipFrom_separated filled fits (by simp)

/-! ## Trees -/

/-- A value starts neither with a gap nor with what closes a list. -/
theorem Tree.write_eq_cons (t : Tree) :
    ∃ c cs, t.write = c :: cs ∧ isGap c = false ∧ c ≠ ']' := by
  cases t with
  | word w => cases w <;> exact ⟨_, _, rfl, by decide, by decide⟩
  | number n =>
    obtain ⟨isNegative, n, decimals, exponent⟩ := n
    cases isNegative with
    | true => exact ⟨_, _, rfl, by decide, by decide⟩
    | false =>
      obtain ⟨d, ds, written, digit, -⟩ := writeNat_eq_cons n
      refine ⟨d, ds ++ (writeDecimals decimals ++ writeExponent exponent), ?_,
        isGap_of_isDigit digit, ne_of_isDigit digit (by decide)⟩
      simp [Tree.write, Numeral.write, written]
  | text pieces => exact ⟨_, _, rfl, by decide, by decide⟩
  | list inner items => exact ⟨_, _, rfl, by decide, by decide⟩
  | object inner members => exact ⟨_, _, rfl, by decide, by decide⟩

/-- A value inside a bracket is taken with the gap behind it. -/
theorem Passes.skipFrom_value {text : List Char} (passes : Passes text) (b : Bracket) (g : Gap)
    (ends : EndsValue rest) :
    skipFrom .value (b :: bs) (text ++ (g.chars ++ rest)) = skipFrom .after (b :: bs) rest :=
  (passes (b :: bs) _ (ends.gap g)).trans (skipFrom_gap (by simp) g)

theorem Item.fits (i : Item Tree) (passes : Passes i.value.write) : Fits .list i.text := by
  intro spot may bs rest ends
  simp only [Bracket.next, List.mem_cons, List.not_mem_nil, or_false] at may
  rw [Item.text, List.append_assoc, List.append_assoc,
    ← passes.skipFrom_value .list i.after ends]
  obtain rfl | rfl := may
  · exact skipFrom_gap (by simp) i.before
  · obtain ⟨c, cs, written, gap, close⟩ := i.value.write_eq_cons
    have move (rest : List Char) : SkipSpot.opened.move (.list :: bs) c rest =
        SkipSpot.value.move (.list :: bs) c rest := by
      simp [SkipSpot.move, SkipMove.afterOpening, gap]
    rw [skipFrom_gap (by simp), written, List.cons_append, skipFrom, move, skipFrom]

theorem Member.fits (m : Member Tree) (passes : Passes m.value.write) :
    Fits .object m.text := by
  intro spot may bs rest ends
  simp only [Bracket.next, List.mem_cons, List.not_mem_nil, or_false] at may
  have between : spot.IsBetween (.object :: bs) := by
    obtain rfl | rfl := may <;> simp
  have quote (cs : List Char) :
      skipFrom spot (.object :: bs) ('"' :: cs) = skipFrom (.text true) (.object :: bs) cs := by
    obtain rfl | rfl := may <;> exact skipFrom_go rfl
  have colon (cs : List Char) :
      skipFrom .colon (.object :: bs) (':' :: cs) = skipFrom .value (.object :: bs) cs :=
    skipFrom_go rfl
  simp only [Member.text, List.append_assoc, List.cons_append]
  rw [skipFrom_gap between, quote, skipFrom_pieces, if_pos rfl, skipFrom_gap (by simp), colon,
    skipFrom_gap (by simp), passes.skipFrom_value .object m.after ends]

mutual

/-- Every tree is passed over. -/
theorem Tree.passes : ∀ t : Tree, Passes t.write
  | .word w => w.passes
  | .number n => n.passes
  | .text pieces => passes_text pieces
  | .list inner items => passes_bracketed (fun _ _ => rfl) inner (fits_writeItems items)
  | .object inner members => passes_bracketed (fun _ _ => rfl) inner (fits_writeMembers members)

theorem fits_writeItems : ∀ items : List (Item Tree), ∀ part ∈ writeItems items, Fits .list part
  | [] => by simp [writeItems]
  | ⟨before, value, after⟩ :: items =>
    List.forall_mem_cons.2 ⟨Item.fits ⟨before, value, after⟩ value.passes, fits_writeItems items⟩

theorem fits_writeMembers :
    ∀ members : List (Member Tree), ∀ part ∈ writeMembers members, Fits .object part
  | [] => by simp [writeMembers]
  | ⟨before, name, colon, gap, value, after⟩ :: members =>
    List.forall_mem_cons.2 ⟨Member.fits ⟨before, name, colon, gap, value, after⟩ value.passes,
      fits_writeMembers members⟩

end

/-- The value of an unknown field is skipped, with the gap before it. -/
theorem Tree.reads_skipValue {σ : Type} (t : Tree) (g : Gap) (s : σ) :
    Reads (fun cs => do return (s, ← skipValue cs)) (g.chars ++ t.write) s := by
  intro rest ends
  have taken : skipValue ((g.chars ++ t.write) ++ rest) = .ok rest := by
    rw [skipValue, List.append_assoc, skipFrom_gap (by simp)]
    exact t.passes [] rest ends
  simp only [taken]
  rfl

end Turnstile.Json
