import Mathlib.Data.List.Pairwise
import Turnstile.Proofs.Json.Passing

/-!
# What an object says of its fields

`Tree.given? t name value?` is what an object says of a field : nothing, a value, or, if it names
the field twice or with a value of another kind, neither. It is a function of the values of the
members of that name, so it does not change when members change places, when members of other names
come or go, or when a value is written in a way that says the same. `Rearranged` collects these
changes, at every level of the records that a `Layout` describes (`Rearranged.given?`).

A record is read off any object that says something proper of each of its fields, whatever else the
object holds. `KnownField.reads_tree` : what has been collected in the end is what the object says,
field by field.
-/

namespace Turnstile.Json

/-! ## Fields of an object -/

/-- The text that a tree is. -/
def Tree.text? : Tree → Option String
  | .text pieces => textOf? pieces
  | _ => none

/-- The natural number that a tree is, if it is written without point and exponent and fits a word
of 64 bits. -/
def Tree.nat? : Tree → Option Nat
  | .number ⟨false, n, none, none⟩ => if n ≤ maxWord then some n else none
  | _ => none

theorem Tree.reads_text {t : Tree} {s : String} (said : t.text? = some s) :
    Reads readString t.write s := by
  cases t with
  | text pieces =>
    intro rest _
    rw [Tree.write, List.cons_append, readString, skipGap_cons (show isGap '"' = false by decide)]
    exact readText_pieces said rest
  | _ => cases said

theorem Tree.reads_nat {t : Tree} {n : Nat} (said : t.nat? = some n) :
    Reads (readNat maxWord) t.write n := by
  unfold Tree.nat? at said
  split at said
  · next n =>
    split at said
    · next fits =>
      obtain rfl := Option.some.inj said
      simpa [Tree.write, Numeral.write, writeDecimals, writeExponent] using
        reads_writeNat fits (Nat.le_refl maxWord)
    · cases said
  · cases said

/-- The name of a member. -/
def Member.name? {τ : Type} (m : Member τ) : Option String := textOf? m.name

/-- Every name is a text : a name in which half a pair of surrogates stands alone is none. -/
def Named {τ : Type} (ms : List (Member τ)) : Prop := ∀ m ∈ ms, m.name?.isSome

instance {τ : Type} (ms : List (Member τ)) : Decidable (Named ms) :=
  inferInstanceAs (Decidable (∀ m ∈ ms, m.name?.isSome))

section Given

variable {α : Type} {name : String} {value? : Tree → Option α} {m : Member Tree}
  {ms ms' : List (Member Tree)}

/-- What members say of a field : its value if one of them gives it, and nothing if none does. -/
def given? (name : String) (value? : Tree → Option α) (ms : List (Member Tree)) :
    Option (Option α) :=
  match ms.filter fun m => m.name? = some name with
  | [] => some none
  | [m] => (value? m.value).map some
  | _ :: _ :: _ => none

/-- What an object says of a field. -/
def Tree.given? (t : Tree) (name : String) (value? : Tree → Option α) : Option (Option α) :=
  match t with
  | .object _ ms => if Named ms then Json.given? name value? ms else none
  | _ => none

theorem given?_cons_of_ne (other : m.name? ≠ some name) :
    given? name value? (m :: ms) = given? name value? ms := by
  rw [given?, List.filter_cons_of_neg (by simpa using other), given?]

/-- A member that gives a field is the only one. -/
theorem given?_cons_of_eq (same : m.name? = some name) {g : Option α}
    (given : given? name value? (m :: ms) = some g) :
    ∃ a, value? m.value = some a ∧ g = some a ∧ given? name value? ms = some none := by
  rw [given?, List.filter_cons_of_pos (by simpa using same)] at given
  rcases others : ms.filter fun m => m.name? = some name with _ | ⟨m', ms'⟩
  · rw [others] at given
    obtain ⟨a, said, rfl⟩ := Option.map_eq_some_iff.1 given
    exact ⟨a, said, rfl, by rw [given?, others]⟩
  · rw [others] at given
    cases given

theorem given?_perm (perm : ms.Perm ms') : given? name value? ms = given? name value? ms' := by
  have filtered := perm.filter fun m => m.name? = some name
  unfold given?
  generalize ms.filter (fun m => m.name? = some name) = l at filtered ⊢
  generalize ms'.filter (fun m => m.name? = some name) = l' at filtered ⊢
  match l, l', filtered with
  | [], l', filtered => rw [List.nil_perm.1 filtered]
  | [m], l', filtered => rw [List.singleton_perm.1 filtered]
  | _ :: _ :: _, [], filtered => cases List.perm_nil.1 filtered
  | _ :: _ :: _, [m], filtered => cases List.perm_singleton.1 filtered
  | _ :: _ :: _, _ :: _ :: _, _ => rfl

theorem given?_cons_congr {m' : Member Tree} (named : m.name? = m'.name?)
    (same : m.name? = some name → value? m.value = value? m'.value) :
    given? name value? (m :: ms) = given? name value? (m' :: ms) := by
  by_cases this : m.name? = some name
  · have this' := named.symm.trans this
    simp only [given?, List.filter_cons_of_pos, this, this', decide_true]
    rcases others : ms.filter fun m => m.name? = some name with _ | ⟨_, _⟩
    · simp only [others, same this]
    · simp only [others]
  · rw [given?_cons_of_ne this, given?_cons_of_ne (named ▸ this)]

end Given

/-! ## Changes that say the same -/

/-- The fields of a record by their names, where a field may be a record again. -/
inductive Layout where
  | value
  | record (fields : List (String × Layout))

/-- Objects that differ in the order of their members, in members of unknown names, and, inside the
members of known names, in the same way again. -/
inductive Rearranged : Layout → Tree → Tree → Prop
  | refl (l : Layout) (t : Tree) : Rearranged l t t
  | symm {l : Layout} {t t' : Tree} : Rearranged l t t' → Rearranged l t' t
  | trans {l : Layout} {t t' t'' : Tree} :
    Rearranged l t t' → Rearranged l t' t'' → Rearranged l t t''
  | permuted {fields : List (String × Layout)} {ms ms' : List (Member Tree)} (inner inner' : Gap)
    (perm : ms.Perm ms') : Rearranged (.record fields) (.object inner ms) (.object inner' ms')
  | unknown {fields : List (String × Layout)} {m : Member Tree} {name : String} (inner : Gap)
    (ms : List (Member Tree)) (named : m.name? = some name) (other : fields.lookup name = none) :
    Rearranged (.record fields) (.object inner (m :: ms)) (.object inner ms)
  | inside {fields : List (String × Layout)} {m : Member Tree} {name : String} {l : Layout}
    {t : Tree} (inner : Gap) (ms : List (Member Tree)) (named : m.name? = some name)
    (known : fields.lookup name = some l) (value : Rearranged l m.value t) :
    Rearranged (.record fields) (.object inner (m :: ms))
      (.object inner ({ m with value := t } :: ms))

namespace Rearranged

/-- Nothing is changed inside a plain value. -/
theorem plain {α : Type} (value? : Tree → Option α) (t t' : Tree) (r : Rearranged .value t t') :
    value? t = value? t' := by
  generalize layout : Layout.value = l at r
  induction r with
  | refl => rfl
  | symm _ ih => exact (ih layout).symm
  | trans _ _ ih ih' => exact (ih layout).trans (ih' layout)
  | permuted | unknown | inside => cases layout

/-- What is said of a field stays, if what its value says stays. -/
theorem given? {fields : List (String × Layout)} {t t' : Tree}
    (r : Rearranged (.record fields) t t') {α : Type} {name : String} {value? : Tree → Option α}
    {l : Layout} (known : fields.lookup name = some l)
    (same : ∀ u u', Rearranged l u u' → value? u = value? u') :
    t.given? name value? = t'.given? name value? := by
  generalize record : Layout.record fields = l' at r
  induction r with
  | refl => rfl
  | symm _ ih => exact (ih record).symm
  | trans _ _ ih ih' => exact (ih record).trans (ih' record)
  | @permuted _ ms ms' _ _ perm =>
    have named : Named ms ↔ Named ms' := by simp only [Named, perm.mem_iff]
    simp only [Tree.given?, named, given?_perm perm]
  | @unknown _ m other _ ms named stranger =>
    cases record
    have named' : Named (m :: ms) ↔ Named ms := by simp [Named, named]
    have differs : m.name? ≠ some name := by
      rintro eq
      obtain rfl := Option.some.inj (named.symm.trans eq)
      cases known.symm.trans stranger
    simp only [Tree.given?, named', given?_cons_of_ne differs]
  | @inside _ m name' l' t inner ms named known' value =>
    cases record
    have congr : Json.given? name value? (m :: ms) =
        Json.given? name value? ({ m with value := t } :: ms) := by
      refine given?_cons_congr rfl fun this => ?_
      obtain rfl := Option.some.inj (named.symm.trans this)
      obtain rfl := Option.some.inj (known.symm.trans known')
      exact same _ _ value
    have named' : Named (m :: ms) ↔ Named ({ m with value := t } :: ms) := by
      simp [Named, Member.name?]
    simp only [Tree.given?, named', congr]

end Rearranged

/-! ## Records -/

/-- What a value may look like, and how it is read. -/
structure Shape (α : Type) where
  value? : Tree → Option α
  read : Reader α
  reads : ∀ {t a}, value? t = some a → Reads read t.write a
  blind : Blind read

/-- A text. -/
def Shape.text : Shape String := ⟨Tree.text?, readString, Tree.reads_text, blind_readString⟩

/-- A field of the records that are collected in a `σ`. -/
structure KnownField (σ : Type) where
  α : Type
  name : String
  shape : Shape α
  get : σ → Option α
  set : σ → α → σ
  get_set : ∀ s a, get (set s a) = some a

namespace KnownField

variable {σ : Type}

/-- The field as it is read. -/
def field (f : KnownField σ) : RecordField σ := .ofReader f.name f.shape.read f.get f.set

/-- Fields of different names that are kept in different parts of a record. -/
structure Apart (f f' : KnownField σ) : Prop where
  name_ne : f.name ≠ f'.name
  get_set : ∀ s a, f'.get (f.set s a) = f'.get s
  get_set' : ∀ s a, f.get (f'.set s a) = f.get s

instance : Std.Symm (@Apart σ) where
  symm _ _ apart := ⟨apart.name_ne.symm, apart.get_set', apart.get_set⟩

variable {fields : List (KnownField σ)}

/-- A field that was not given is read, and one that no record knows is skipped. -/
theorem onName_eq (fields : List (KnownField σ)) (n : String) (s : σ) :
    RecordField.onName (fields.map field) n s =
      match fields.find? (·.name == n) with
      | some f => if (f.get s).isSome then .error .mismatched else .ok (f.field.read s)
      | none => .ok fun cs => do return (s, ← skipValue cs) := by
  have names : (fun f : RecordField σ => f.name == n) ∘ field = (·.name == n) := rfl
  rw [RecordField.onName, List.find?_map, names]
  cases fields.find? (·.name == n) <;> rfl

/-- A member of another name leaves what was collected. -/
theorem reads_unknown {m : Member Tree} {n : String} (name : m.name? = some n)
    (unknown : fields.find? (·.name == n) = none) (s : σ) :
    MemberReads (RecordField.onName (fields.map field)) s m.text s := by
  refine .mk _ _ _ (readText_pieces name) ?_ (m.value.reads_skipValue m.gap s)
  rw [onName_eq, unknown]

/-- A member of a field that was not given yet adds its value. -/
theorem reads_known {m : Member Tree} {f : KnownField σ} {s : σ} {a : f.α}
    (name : m.name? = some f.name) (known : fields.find? (·.name == f.name) = some f)
    (fresh : f.get s = none) (value : f.shape.value? m.value = some a) :
    MemberReads (RecordField.onName (fields.map field)) s m.text (f.set s a) := by
  have reads : Reads (f.field.read s) (m.gap.chars ++ m.value.write) (f.set s a) :=
    RecordField.reads_ofReader ((f.shape.reads value).gap f.shape.blind m.gap) s
  refine .mk _ _ _ (readText_pieces name) ?_ reads
  rw [onName_eq, known]
  simp only [fresh]
  rfl

/-- The members of an object are collected one by one. Each field that they give is taken over, and
the others keep what they had. -/
theorem collects (apart : fields.Pairwise Apart) {ms : List (Member Tree)} (named : Named ms)
    {s : σ} (given : ∀ f ∈ fields, ∃ g,
      given? f.name f.shape.value? ms = some g ∧ (g = none ∨ f.get s = none)) :
    ∃ s', Collects (RecordField.onName (fields.map field)) s (writeMembers ms) s' ∧
      ∀ f ∈ fields, ∀ g, given? f.name f.shape.value? ms = some g → f.get s' = g.or (f.get s) := by
  induction ms generalizing s with
  | nil =>
    refine ⟨s, .nil s, fun f _ g said => ?_⟩
    obtain rfl := Option.some.inj said
    rfl
  | cons m ms ih =>
    obtain ⟨first, named⟩ := List.forall_mem_cons.1 named
    obtain ⟨n, name⟩ := Option.isSome_iff_exists.1 first
    cases found : fields.find? (·.name == n) with
    | none =>
      -- no field has this name, so every field keeps what it had
      have other : ∀ f ∈ fields, given? f.name f.shape.value? (m :: ms) =
          given? f.name f.shape.value? ms := by
        refine fun f mem => given?_cons_of_ne fun same => ?_
        have differs := List.find?_eq_none.1 found f mem
        exact differs (beq_iff_eq.2 (Option.some.inj (same.symm.trans name)))
      obtain ⟨s', later, kept⟩ := ih named (s := s) fun f mem => other f mem ▸ given f mem
      exact ⟨s', .cons (reads_unknown name found s) later, fun f mem g said =>
        kept f mem g (other f mem ▸ said)⟩
    | some f =>
      have mem := List.mem_of_find?_eq_some found
      obtain rfl : f.name = n := by simpa using List.find?_some found
      obtain ⟨g, said, free⟩ := given f mem
      obtain ⟨a, value, rfl, rest⟩ := given?_cons_of_eq name said
      have fresh : f.get s = none := free.resolve_left (by simp)
      -- this field is given here and by no later member, and no other field is touched
      have other {f' : KnownField σ} (mem' : f' ∈ fields) (ne : f' ≠ f) :
          given? f'.name f'.shape.value? (m :: ms) = given? f'.name f'.shape.value? ms ∧
            f'.get (f.set s a) = f'.get s := by
        have apart := apart.forall mem mem' ne.symm
        refine ⟨given?_cons_of_ne fun same => ?_, apart.get_set s a⟩
        exact apart.name_ne (Option.some.inj (name.symm.trans same))
      obtain ⟨s', later, kept⟩ := ih named (s := f.set s a) fun f' mem' => by
        by_cases this : f' = f
        · subst this
          exact ⟨none, rest, .inl rfl⟩
        · obtain ⟨alike, same⟩ := other mem' this
          exact alike ▸ same.symm ▸ given f' mem'
      refine ⟨s', .cons (reads_known name found fresh value) later, fun f' mem' g said' => ?_⟩
      by_cases this : f' = f
      · subst this
        obtain rfl := Option.some.inj (said.symm.trans said')
        rw [kept f' mem' none rest, f'.get_set]
        rfl
      · obtain ⟨alike, same⟩ := other mem' this
        rw [kept f' mem' g (alike ▸ said'), same]

/-- A record is read off any text of an object that says something proper of each field : in the
end there is of each field just what the object says of it. -/
theorem reads_tree (apart : fields.Pairwise Apart) (filled : fields ≠ []) {start : σ}
    (fresh : ∀ f ∈ fields, f.get start = none) {t : Tree}
    (given : ∀ f ∈ fields, (t.given? f.name f.shape.value?).isSome) :
    ∃ s, (∀ f ∈ fields, t.given? f.name f.shape.value? = some (f.get s)) ∧
      ∀ {α : Type} {finish : σ → Except Fault α} {a : α}, finish s = .ok a →
        Reads (readRecord (fields.map field) start finish) t.write a := by
  obtain ⟨inner, ms, rfl, named⟩ : ∃ inner ms, t = .object inner ms ∧ Named ms := by
    obtain ⟨f, rest, rfl⟩ := List.exists_cons_of_ne_nil filled
    have first := given f List.mem_cons_self
    cases t with
    | object inner ms =>
      refine ⟨inner, ms, rfl, ?_⟩
      by_contra unnamed
      simp [Tree.given?, unnamed] at first
    | _ => cases first
  have said (f : KnownField σ) : (Tree.object inner ms).given? f.name f.shape.value? =
      given? f.name f.shape.value? ms := if_pos named
  simp only [said, Option.isSome_iff_exists] at given
  obtain ⟨s, collects, kept⟩ := collects apart named (s := start) fun f mem => by
    obtain ⟨g, given⟩ := given f mem
    exact ⟨g, given, .inr (fresh f mem)⟩
  refine ⟨s, fun f mem => ?_, fun finished => reads_object inner collects finished⟩
  obtain ⟨g, given⟩ := given f mem
  rw [said, given, kept f mem g given, fresh f mem, Option.or_none]

end KnownField

end Turnstile.Json
