import Turnstile.Json.Record
import Turnstile.Proofs.Except

/-!
# What readers make

Texts that differ in gaps, escapes, unknown members and the order of the known ones may stand for
the same value. `Makes read P` : whatever the text, what the reader makes of it has the property
`P`. A number read is within its bounds (`makes_readNat`), and what every field keeps true of a
record that is being read is true of the record in the end, be it written as an object or as a list
(`makes_readRecord`).
-/

namespace Turnstile.Json

/-- Everything that a reader makes has a property. -/
def Makes {α : Type} (read : Reader α) (P : α → Prop) : Prop :=
  ∀ cs a rest, read cs = .ok (a, rest) → P a

namespace Makes

variable {α β : Type} {read : Reader α} {P : α → Prop} {Q : β → Prop}

theorem parse (makes : Makes read P) {s : String} {a : α} (parsed : parse read s = .ok a) :
    P a := by
  unfold Json.parse at parsed
  split at parsed
  · cases parsed
  · next a' rest took =>
    split at parsed
    · obtain rfl := Except.ok.inj parsed
      exact makes _ _ _ took
    · cases parsed

/-- What a reader makes decides what is read after it. -/
theorem bind (makes : Makes read P) (next : α → Reader β) (then' : ∀ a, P a → Makes (next a) Q) :
    Makes (fun cs => do
      let (a, rest) ← read cs
      next a rest) Q := by
  intro cs b rest made
  obtain ⟨⟨a, rest'⟩, took, made⟩ := bind_eq_ok_iff.1 made
  exact then' a (makes _ _ _ took) _ _ _ made

/-- More is made of what a reader makes. -/
theorem map (makes : Makes read P) {f : α → β} (turns : ∀ a, P a → Q (f a)) :
    Makes (fun cs => do
      let (a, rest) ← read cs
      return (f a, rest)) Q := by
  refine makes.bind (fun a rest => pure (f a, rest)) fun a holds cs b rest made => ?_
  obtain ⟨rfl, -⟩ := Prod.mk.inj (Except.ok.inj made)
  exact turns a holds

end Makes

/-! ## Numbers -/

theorem Number.bounds_of_within {least greatest n : Int} {number : Number}
    (fits : number.within least greatest = .ok n) : least ≤ n ∧ n ≤ greatest := by
  cases number with
  | int m =>
    by_cases bounds : least ≤ m ∧ m ≤ greatest
    · obtain rfl := Except.ok.inj ((if_pos bounds).symm.trans fits)
      exact bounds
    · cases (if_neg bounds).symm.trans fits
  | float => cases fits

theorem makes_readInt (least greatest : Int) :
    Makes (readInt least greatest) fun n => least ≤ n ∧ n ≤ greatest := by
  intro cs n rest made
  unfold readInt at made
  split at made
  · cases made
  · next c cs' _ =>
    split at made
    · obtain ⟨⟨number, rest'⟩, -, made⟩ := bind_eq_ok_iff.1 made
      obtain ⟨m, fits, made⟩ := bind_eq_ok_iff.1 made
      obtain ⟨rfl, -⟩ := Prod.mk.inj (Except.ok.inj made)
      exact Number.bounds_of_within fits
    · cases made

theorem makes_readNat (greatest : Nat) : Makes (readNat greatest) (· ≤ greatest) :=
  (makes_readInt 0 greatest).map fun n within => by omega

/-! ## Records -/

section Records

variable {σ : Type} {P : σ → Prop}

section Members

variable {onName : String → σ → Except Fault (Reader σ)}
  (keeps : ∀ name s read, P s → onName name s = .ok read → Makes read P)

include keeps

/-- What every member keeps is true after all of them. -/
theorem makes_readMembersFrom (fuel : Nat) {s : σ} (holds : P s) :
    Makes (readMembersFrom onName fuel s) P := by
  induction fuel generalizing s with
  | zero => rintro cs a rest ⟨⟩
  | succ fuel ih =>
    intro cs a rest made
    unfold readMembersFrom at made
    obtain ⟨⟨name, cs₁⟩, -, made⟩ := bind_eq_ok_iff.1 made
    obtain ⟨read, known, made⟩ := bind_eq_ok_iff.1 made
    obtain ⟨cs₂, -, made⟩ := bind_eq_ok_iff.1 made
    obtain ⟨⟨s', cs₃⟩, took, made⟩ := bind_eq_ok_iff.1 made
    have holds' : P s' := keeps name s read holds known _ _ _ took
    dsimp only at made
    split at made
    · cases made
    · obtain ⟨rfl, -⟩ := Prod.mk.inj (Except.ok.inj made)
      exact holds'
    · split at made
      · cases made
      · exact ih holds' _ _ _ made
      · cases made
    · cases made

theorem makes_readMembers {s : σ} (holds : P s) : Makes (readMembers onName s) P := by
  intro cs a rest made
  unfold readMembers at made
  split at made
  · cases made
  · obtain ⟨rfl, -⟩ := Prod.mk.inj (Except.ok.inj made)
    exact holds
  · exact makes_readMembersFrom keeps _ holds _ _ _ made
  · cases made

end Members

/-- A field keeps what is true of a record with any value that it reads. -/
theorem RecordField.makes_ofReader {α : Type} {Q : α → Prop} {name : String} {read : Reader α}
    {get : σ → Option α} {set : σ → α → σ} (makes : Makes read Q) {s : σ}
    (keeps : ∀ a, Q a → P (set s a)) :
    Makes ((RecordField.ofReader name read get set).read s) P :=
  makes.map keeps

variable {fields : List (RecordField σ)}
  (keeps : ∀ f ∈ fields, ∀ s, P s → Makes (f.read s) P)

include keeps

/-- A member keeps what its field keeps, and an unknown one leaves the record. -/
theorem RecordField.makes_onName {name : String} {s : σ} {read : Reader σ} (holds : P s)
    (known : RecordField.onName fields name s = .ok read) : Makes read P := by
  unfold RecordField.onName at known
  split at known
  · next f found =>
    split at known
    · cases known
    · obtain rfl := Except.ok.inj known
      exact keeps f (List.mem_of_find?_eq_some found) s holds
  · obtain rfl := Except.ok.inj known
    intro cs a rest made
    obtain ⟨rest', -, made⟩ := bind_eq_ok_iff.1 made
    obtain ⟨rfl, -⟩ := Prod.mk.inj (Except.ok.inj made)
    exact holds

/-- What every field keeps is true after a list of values. -/
theorem makes_readElements (isFirst : Bool) {s : σ} (holds : P s) :
    Makes (readElements fields isFirst s) P := by
  induction fields generalizing isFirst s with
  | nil =>
    intro cs a rest made
    unfold readElements at made
    split at made
    · cases made
    · obtain ⟨rfl, -⟩ := Prod.mk.inj (Except.ok.inj made)
      exact holds
    · cases made
  | cons f fields ih =>
    obtain ⟨first, keeps⟩ := List.forall_mem_cons.1 keeps
    have values : Makes (fun cs => do
        let (s, rest) ← f.read s cs
        readElements fields false s rest) P :=
      (first s holds).bind (readElements fields false) fun s' holds' => ih keeps false holds'
    intro cs a rest made
    unfold readElements at made
    split at made
    · cases made
    · obtain ⟨rfl, -⟩ := Prod.mk.inj (Except.ok.inj made)
      exact holds
    · dsimp only at made
      split at made
      · exact values _ _ _ made
      · split at made
        · split at made
          · cases made
          · cases made
          · exact values _ _ _ made
        · cases made

/-- What every field keeps true of a record that is being read is true of it in the end. -/
theorem makes_readRecord {α : Type} {Q : α → Prop} {start : σ} {finish : σ → Except Fault α}
    (holds : P start) (finished : ∀ s a, P s → finish s = .ok a → Q a) :
    Makes (readRecord fields start finish) Q := by
  have done {read : Reader σ} (makes : Makes read P) :
      Makes (fun cs => do
        let (s, rest) ← read cs
        return (← finish s, rest)) Q := by
    refine makes.bind (fun s rest => do return (← finish s, rest)) fun s holds' cs a rest made => ?_
    obtain ⟨a', ends, made⟩ := bind_eq_ok_iff.1 made
    obtain ⟨rfl, -⟩ := Prod.mk.inj (Except.ok.inj made)
    exact finished s a' holds' ends
  intro cs a rest made
  unfold readRecord at made
  split at made
  · exact done (makes_readMembers (fun _ _ _ holds known =>
      RecordField.makes_onName keeps holds known) holds) _ _ _ made
  · exact done (makes_readElements keeps true holds) _ _ _ made
  · cases made

end Records

end Turnstile.Json
