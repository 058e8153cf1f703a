import Turnstile.Json.Record
import Turnstile.Json.Writer

/-!
# Reading takes back what was written

A written value stands between other characters. `Reads read text a` : the reader takes just
`text` off every row of characters that begins with it and goes on as a row can after a value
(`EndsValue`), and makes `a` of it. Numbers and texts are read back so (`reads_writeNat`,
`reads_writeText`), and so are records whose fields are (`reads_object`, whatever gaps stand
between the parts, and `reads_writeObject`, where there are none).

A record is read member by member, and each member makes a state of the one before. `Collects`
says what state a row of written members leads to.
-/

namespace Turnstile.Json

/-! ## Gaps -/

/-- Characters that may stand between two parts of a text. -/
structure Gap where
  chars : List Char := []
  all : chars.all isGap = true := by decide
deriving DecidableEq

namespace Gap

theorem isGap_of_mem (g : Gap) : ∀ c ∈ g.chars, isGap c = true := List.all_eq_true.1 g.all

@[simp] theorem skipGap_append (g : Gap) (cs : List Char) :
    skipGap (g.chars ++ cs) = skipGap cs := by
  simp [skipGap, List.dropWhile_append_of_pos g.isGap_of_mem]

end Gap

theorem skipGap_skipGap (cs : List Char) : skipGap (skipGap cs) = skipGap cs := by
  induction cs with
  | nil => rfl
  | cons c cs ih =>
    by_cases gap : isGap c = true
    · simpa [skipGap, gap] using ih
    · simp [skipGap, gap]

theorem length_skipGap_le (cs : List Char) : (skipGap cs).length ≤ cs.length :=
  (List.dropWhile_sublist _).length_le

/-- What was found behind a gap is found there whatever follows. -/
theorem skipGap_append_of_eq_cons {cs ds : List Char} {c : Char} (found : skipGap cs = c :: ds)
    (rest : List Char) : skipGap (cs ++ rest) = c :: (ds ++ rest) := by
  have found : cs.dropWhile isGap = c :: ds := found
  simp [skipGap, List.dropWhile_append, found]

/-! ## What may follow a value -/

/-- A row of characters that can stand after a value : it is empty, or begins with a gap, a comma
or a closing bracket. -/
def EndsValue (rest : List Char) : Prop :=
  ∀ c cs, rest = c :: cs → c ∈ [' ', '\n', '\t', '\r', ',', ']', '\x7d']

namespace EndsValue

theorem nil : EndsValue [] := by
  rintro c cs ⟨⟩

theorem cons {c : Char} (ends : c ∈ [' ', '\n', '\t', '\r', ',', ']', '\x7d'])
    (cs : List Char) : EndsValue (c :: cs) := by
  rintro c cs ⟨⟩
  exact ends

theorem comma (cs : List Char) : EndsValue (',' :: cs) := .cons (by decide) cs

theorem bracket (cs : List Char) : EndsValue (']' :: cs) := .cons (by decide) cs

theorem brace (cs : List Char) : EndsValue ('\x7d' :: cs) := .cons (by decide) cs

/-- A gap may come first. -/
theorem gap (g : Gap) {cs : List Char} (ends : EndsValue cs) : EndsValue (g.chars ++ cs) := by
  obtain ⟨_ | ⟨c, chars⟩, all⟩ := g
  · exact ends
  · have blank : isGap c = true := List.all_eq_true.1 all c List.mem_cons_self
    refine .cons ?_ _
    simp only [isGap, Bool.or_eq_true, beq_iff_eq] at blank
    rcases blank with ((rfl | rfl) | rfl) | rfl <;> decide

end EndsValue

/-! ## Readers -/

/-- A reader takes a text for a value, whatever follows it. -/
def Reads {α : Type} (read : Reader α) (text : List Char) (a : α) : Prop :=
  ∀ rest, EndsValue rest → read (text ++ rest) = .ok (a, rest)

/-- A reader passes over a gap. -/
def Blind {α : Type} (read : Reader α) : Prop := ∀ cs, read (skipGap cs) = read cs

namespace Reads

variable {α β : Type} {read : Reader α} {text : List Char} {a : α}

/-- A whole text, behind which a gap may stand, is read as what its reader takes it for. -/
theorem parse_gap (reads : Reads read text a) (g : Gap) :
    Json.parse read (String.ofList (text ++ g.chars)) = .ok a := by
  have whole := reads g.chars (by simpa using EndsValue.nil.gap g)
  have rest : skipGap g.chars = [] := by
    rw [← List.append_nil g.chars, g.skipGap_append]
    rfl
  simp [Json.parse, whole, rest]

theorem parse (reads : Reads read text a) : parse read (String.ofList text) = .ok a := by
  simpa using reads.parse_gap {}

/-- A gap may stand before what a reader takes if it passes over it. -/
theorem gap (reads : Reads read text a) (blind : Blind read) (g : Gap) :
    Reads read (g.chars ++ text) a := by
  intro rest ends
  rw [List.append_assoc, ← blind, g.skipGap_append, blind, reads rest ends]

theorem map (reads : Reads read text a) (f : α → β) :
    Reads (fun cs => do
      let (a, rest) ← read cs
      return (f a, rest)) text (f a) := by
  intro rest ends
  simp only [reads rest ends]
  rfl

end Reads

/-! ## Texts -/

theorem blind_readString : Blind readString := fun cs => by
  simp only [readString, skipGap_skipGap]

theorem reads_writeText (s : String) : Reads readString (writeText s) s := by
  intro rest _
  have gap : isGap '"' = false := by decide
  rw [writeText, List.cons_append, List.append_assoc, List.singleton_append, readString,
    skipGap_cons gap]
  exact readText_escaped s rest

/-! ## Numbers -/

/-- The digits of a number do not begin with a zero, unless this is all. -/
theorem toDigits_ne_zero_cons (n : Nat) (c : Char) (cs : List Char) :
    Nat.toDigits 10 n ≠ '0' :: c :: cs := by
  induction n using Nat.strongRecOn generalizing c cs with
  | ind n ih =>
    intro digits
    rw [Nat.toDigits_eq_if (by decide)] at digits
    split at digits
    · exact absurd (congrArg List.length digits) (by simp)
    · next large =>
      have smaller : n / 10 < n := by omega
      rcases front : Nat.toDigits 10 (n / 10) with _ | ⟨d, _ | ⟨d', ds⟩⟩
      · exact Text.Decimal.toDigits_ne_nil _ front
      · -- a single digit before the last one is that of a number from one to nine
        rw [front] at digits
        obtain ⟨rfl, -⟩ := List.cons.inj digits
        have zero := congrArg (Nat.ofDigitChars 10 · 0) front
        rw [Nat.ofDigitChars_ten_toDigits] at zero
        exact absurd zero (by simp [Nat.ofDigitChars]; omega)
      · rw [front] at digits
        obtain ⟨rfl, -⟩ := List.cons.inj digits
        exact ih (n / 10) smaller d' ds front

/-- A written number starts with a digit, and with a zero only if this is all. -/
theorem writeNat_eq_cons (n : Nat) :
    ∃ d ds, writeNat n = d :: ds ∧ d.isDigit = true ∧ (∀ c ∈ ds, c.isDigit = true) ∧
      (d = '0' → ds = []) := by
  have all : ∀ c ∈ Nat.toDigits 10 n, c.isDigit = true :=
    fun c => Text.Decimal.isDigit_of_mem_toDigits
  rcases front : Nat.toDigits 10 n with _ | ⟨d, ds⟩
  · exact absurd front (Text.Decimal.toDigits_ne_nil n)
  · rw [front] at all
    obtain ⟨digit, digits⟩ := List.forall_mem_cons.1 all
    refine ⟨d, ds, front, digit, digits, ?_⟩
    rintro rfl
    cases ds with
    | nil => rfl
    | cons c cs => exact absurd front (toDigits_ne_zero_cons n c cs)

theorem ne_of_isDigit {c d : Char} (digit : c.isDigit = true) (other : d.isDigit = false) :
    c ≠ d := by
  rintro rfl
  cases digit.symm.trans other

theorem isGap_of_isDigit {c : Char} (digit : c.isDigit = true) : isGap c = false := by
  simp [isGap, ne_of_isDigit digit]

/-- Every digit is taken as long as the number fits. -/
theorem Significand.take_eq {ds : List Char} {m : Nat}
    (fits : Nat.ofDigitChars 10 ds m ≤ maxWord) :
    Significand.take m ds = (Nat.ofDigitChars 10 ds m, ds.length) := by
  induction ds generalizing m with
  | nil => rfl
  | cons c ds ih =>
    have next : Nat.ofDigitChars 10 (c :: ds) m =
        Nat.ofDigitChars 10 ds (m * 10 + digitValue c) := by
      rw [Nat.ofDigitChars_cons, Nat.mul_comm]
      rfl
    have grows : m * 10 + digitValue c ≤ Nat.ofDigitChars 10 ds (m * 10 + digitValue c) := by
      rw [Nat.ofDigitChars_eq_ofDigitChars_zero]
      exact Nat.le_add_right_of_le (Nat.le_mul_of_pos_left _ (Nat.pow_pos (by decide)))
    rw [next] at fits ⊢
    simp only [Significand.take, if_pos (Nat.le_trans grows fits), ih fits, List.length_cons]

/-- The digits of a number that fits a word are read as an integer. -/
theorem readNumber_writeNat {n : Nat} (fits : n ≤ maxWord) {rest : List Char}
    (ends : EndsValue rest) : readNumber (writeNat n ++ rest) = .ok (.int n, rest) := by
  have all : ∀ c ∈ Nat.toDigits 10 n, c.isDigit = true :=
    fun c => Text.Decimal.isDigit_of_mem_toDigits
  have stop : ∀ c cs, rest = c :: cs → c.isDigit = false := by
    intro c cs first
    have last := ends c cs first
    simp only [List.mem_cons, List.not_mem_nil, or_false] at last
    obtain rfl | rfl | rfl | rfl | rfl | rfl | rfl := last <;> rfl
  have taken : Significand.take 0 (Nat.toDigits 10 n) = (n, (Nat.toDigits 10 n).length) := by
    rw [Significand.take_eq (by rwa [Nat.ofDigitChars_ten_toDigits]),
      Nat.ofDigitChars_ten_toDigits]
  have fraction : readFraction false (Nat.toDigits 10 n) rest = .ok (.int n, rest) := by
    unfold readFraction
    rw [taken]
    dsimp only
    split
    · next rest => exact absurd (ends '.' rest rfl) (by decide)
    · next rest => exact absurd (ends 'e' rest rfl) (by decide)
    · next rest => exact absurd (ends 'E' rest rfl) (by decide)
    · rw [if_pos rfl]
      rfl
  have unsigned : readMagnitude false (writeNat n ++ rest) = .ok (.int n, rest) := by
    unfold readMagnitude writeNat
    rw [digits_append all stop]
    split
    · next none => exact absurd (Prod.mk.inj none).1 (Text.Decimal.toDigits_ne_nil n)
    · next none => exact absurd (Prod.mk.inj none).1 (Text.Decimal.toDigits_ne_nil n)
    · next zero => exact absurd (Prod.mk.inj zero).1 (toDigits_ne_zero_cons n _ _)
    · next same =>
      obtain ⟨rfl, rfl⟩ := Prod.mk.inj same
      exact fraction
  unfold readNumber
  split
  · next signed =>
    obtain ⟨d, ds, written, digit, -⟩ := writeNat_eq_cons n
    rw [written] at signed
    obtain ⟨rfl, -⟩ := List.cons.inj signed
    exact absurd digit (by decide)
  · exact unsigned

theorem blind_readNat (greatest : Nat) : Blind (readNat greatest) := fun cs => by
  simp only [readNat, readInt, skipGap_skipGap]

/-- A number up to the bound of its reader is read back. -/
theorem reads_writeNat {n greatest : Nat} (le : n ≤ greatest) (word : greatest ≤ maxWord) :
    Reads (readNat greatest) (writeNat n) n := by
  intro rest ends
  have number := readNumber_writeNat (Nat.le_trans le word) ends
  obtain ⟨d, ds, written, digit, -⟩ := writeNat_eq_cons n
  have within : Number.within 0 greatest (.int n) = .ok n := by
    simp [Number.within, le]
  rw [written, List.cons_append] at number ⊢
  unfold readNat readInt
  rw [skipGap_cons (isGap_of_isDigit digit)]
  simp only [digit, or_true, if_true, number]
  simp [bind, Except.bind, within, pure, Except.pure]

/-! ## Objects -/

section Members

variable {σ : Type} {onName : String → σ → Except Fault (Reader σ)}

/-- The text of a member, read from a state, leads to another one. Gaps may stand around the name
and behind the value. -/
inductive MemberReads (onName : String → σ → Except Fault (Reader σ)) (s : σ) :
    List Char → σ → Prop
  | mk (before colon after : Gap) {spelled value : List Char} {name : String} {read : Reader σ}
    {s' : σ} (spells : ∀ rest, readText (spelled ++ rest) = .ok (name, rest))
    (known : onName name s = .ok read) (reads : Reads read value s') :
    MemberReads onName s
      (before.chars ++ '"' :: (spelled ++ (colon.chars ++ ':' :: (value ++ after.chars)))) s'

/-- The texts of members, read one after the other from a state, lead to another state. -/
inductive Collects (onName : String → σ → Except Fault (Reader σ)) : σ → List (List Char) → σ → Prop
  | nil (s : σ) : Collects onName s [] s
  | cons {s s' s'' : σ} {text : List Char} {texts : List (List Char)}
    (member : MemberReads onName s text s') (later : Collects onName s' texts s'') :
    Collects onName s (text :: texts) s''

/-- A member that is written without gaps. -/
theorem Collects.written {s s' s'' : σ} {name : String} {text : List Char}
    {members : List (String × List Char)} {read : Reader σ} (known : onName name s = .ok read)
    (reads : Reads read text s') (later : Collects onName s' (members.map writeMember) s'') :
    Collects onName s (((name, text) :: members).map writeMember) s'' := by
  have spells (rest : List Char) :
      readText ((name.toList.flatMap escaped ++ ['"']) ++ rest) = .ok (name, rest) := by
    simpa using readText_escaped name rest
  have member := MemberReads.mk {} {} {} spells known reads
  exact .cons (by simpa [writeMember, writeText] using member) later

/-- A field that was not given takes the value that its text is read as. -/
theorem RecordField.reads_ofReader {α : Type} {name : String} {read : Reader α}
    {get : σ → Option α} {set : σ → α → σ} {text : List Char} {a : α} (reads : Reads read text a)
    (s : σ) : Reads ((RecordField.ofReader name read get set).read s) text (set s a) :=
  reads.map (set s)

/-- A member is read up to what follows it. -/
theorem readMembersFrom_member {s s' : σ} {text : List Char}
    (member : MemberReads onName s text s') :
    ∃ cs, skipGap text = '"' :: cs ∧ cs ≠ [] ∧ ∀ fuel after, EndsValue after →
      readMembersFrom onName (fuel + 1) s (cs ++ after) =
        match skipGap after with
        | [] => .error .truncated
        | '\x7d' :: rest => .ok (s', rest)
        | ',' :: rest =>
          match skipGap rest with
          | [] => .error .truncated
          | '"' :: rest => readMembersFrom onName fuel s' rest
          | _ :: _ => .error .malformed
        | _ :: _ => .error .malformed := by
  obtain ⟨before, colon, gap, spells, known, reads⟩ := member
  rename_i spelled value name read
  have quote : isGap '"' = false := by decide
  refine ⟨_, by rw [before.skipGap_append, skipGap_cons quote], by simp, fun fuel after ends => ?_⟩
  have colon : readColon (colon.chars ++ ':' :: (value ++ (gap.chars ++ after))) =
      .ok (value ++ (gap.chars ++ after)) := by
    simp [readColon, skipGap_cons (show isGap ':' = false by decide)]
  simp only [List.append_assoc, List.cons_append, readMembersFrom, spells, known, colon,
    reads _ (ends.gap gap), gap.skipGap_append, bind, Except.bind]
  rfl

/-- Members are read from what follows the quote before the first name. Each costs one unit of
fuel. -/
theorem readMembersFrom_separated {s s' : σ} {texts : List (List Char)}
    (collects : Collects onName s texts s') (filled : texts ≠ []) :
    ∃ cs, skipGap (separated texts) = '"' :: cs ∧ texts.length ≤ cs.length ∧
      ∀ fuel rest, texts.length ≤ fuel →
        readMembersFrom onName fuel s (cs ++ '\x7d' :: rest) = .ok (s', rest) := by
  have comma : isGap ',' = false := by decide
  have brace : isGap '\x7d' = false := by decide
  induction collects with
  | nil => exact absurd rfl filled
  | @cons s s' s'' text texts member later ih =>
    obtain ⟨cs, found, some, read⟩ := readMembersFrom_member member
    have positive : 0 < cs.length := List.length_pos_iff.2 some
    cases texts with
    | nil =>
      cases later
      refine ⟨cs, found, positive, fun fuel rest enough => ?_⟩
      obtain ⟨fuel, rfl⟩ := Nat.exists_eq_add_of_le' (show 1 ≤ fuel from enough)
      rw [read _ _ (.brace rest), skipGap_cons brace]
      rfl
    | cons next texts =>
      obtain ⟨ds, found', longer, read'⟩ := ih (by simp)
      refine ⟨cs ++ ',' :: separated (next :: texts), skipGap_append_of_eq_cons found _, ?_,
        fun fuel rest enough => ?_⟩
      · have shorter := length_skipGap_le (separated (next :: texts))
        rw [found'] at shorter
        simp only [List.length_append, List.length_cons] at longer shorter ⊢
        omega
      · obtain ⟨fuel, rfl⟩ := Nat.exists_eq_add_of_le' (Nat.lt_of_lt_of_le (Nat.succ_pos _) enough)
        rw [List.append_assoc, List.cons_append, read _ _ (.comma _), skipGap_cons comma]
        simp only [skipGap_append_of_eq_cons found']
        exact read' fuel rest (Nat.le_of_succ_le_succ enough)

/-- Members are read from what follows the opening brace. -/
theorem readMembers_separated {s s' : σ} {texts : List (List Char)}
    (collects : Collects onName s texts s') (inner : Gap) (rest : List Char) :
    readMembers onName s (inner.chars ++ (separated texts ++ '\x7d' :: rest)) = .ok (s', rest) := by
  have brace : isGap '\x7d' = false := by decide
  by_cases filled : texts = []
  · subst filled
    cases collects
    simp [readMembers, separated, skipGap_cons brace]
  · obtain ⟨cs, found, longer, read⟩ := readMembersFrom_separated collects filled
    have enough : texts.length ≤ (cs ++ '\x7d' :: rest).length := by
      rw [List.length_append]
      omega
    simp only [readMembers, inner.skipGap_append, skipGap_append_of_eq_cons found]
    exact read _ rest enough

variable {α : Type} {fields : List (RecordField σ)} {start s : σ} {finish : σ → Except Fault α}
  {a : α}

theorem blind_readRecord : Blind (readRecord fields start finish) := fun cs => by
  simp only [readRecord, skipGap_skipGap]

/-- A record is read from an object of its members, with a gap behind the opening brace. -/
theorem reads_object (inner : Gap) {texts : List (List Char)}
    (collects : Collects (RecordField.onName fields) start texts s) (finished : finish s = .ok a) :
    Reads (readRecord fields start finish)
      ('\x7b' :: (inner.chars ++ (separated texts ++ ['\x7d']))) a := by
  intro rest _
  have brace : isGap '\x7b' = false := by decide
  rw [List.cons_append, List.append_assoc, List.append_assoc, List.singleton_append, readRecord,
    skipGap_cons brace]
  simp only [readMembers_separated collects inner rest, bind, Except.bind, finished]
  rfl

/-- A record is read back from an object of its members. -/
theorem reads_writeObject {members : List (String × List Char)}
    (collects : Collects (RecordField.onName fields) start (members.map writeMember) s)
    (finished : finish s = .ok a) :
    Reads (readRecord fields start finish) (writeObject members) a :=
  reads_object {} collects finished

end Members

end Turnstile.Json
