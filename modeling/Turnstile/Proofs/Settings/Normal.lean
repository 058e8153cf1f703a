import Turnstile.Proofs.Json.Made
import Turnstile.Proofs.Settings.Written

/-!
# Settings that were read

A length of time that is read is a number of whole milliseconds that fits 64 bits, and so is every
default. So settings that were read from any text, in whatever form it says them, lose nothing when
they are written (`Settings.makes_read`). They were looked at when they were read, and what is read
back is the same, so it is accepted again. `Settings.ofJson_normal` : settings that were read have a
text of their own, which is read as just these settings, and which is then written of them again.
-/

namespace Turnstile

open Json

/-! ## Lengths of time -/

theorem makes_readMillis : Makes readMillis fun d => writtenTime d = d := by
  refine (makes_readNat maxWord).map fun n fits => ?_
  rw [writtenTime, Time.millis_ofMillis, Nat.min_eq_left fits]

theorem writtenTime_getD (default : Nat) {given : Option Nat}
    (whole : ∀ t ∈ given, writtenTime t = t) (whole' : writtenTime default = default) :
    writtenTime (given.getD default) = given.getD default := by
  cases given with
  | none => exact whole'
  | some t => exact whole t rfl

/-! ## Settings of locks -/

namespace LockSettings

/-- Every length of time that a text has given so far is one that is written in full. -/
structure Draft.Whole (d : Draft) : Prop where
  lease : ∀ t ∈ d.lease, writtenTime t = t
  poll : ∀ t ∈ d.poll, writtenTime t = t
  wait : ∀ t ∈ d.wait, writtenTime t = t

/-- The defaults are written in full, too. -/
theorem Draft.Whole.written_settings {d : Draft} (whole : d.Whole) :
    d.settings.written = d.settings := by
  have lease := writtenTime_getD ({} : LockSettings).lease whole.lease (by decide)
  have poll := writtenTime_getD ({} : LockSettings).poll whole.poll (by decide)
  have wait := writtenTime_getD ({} : LockSettings).wait whole.wait (by decide)
  simp only [written, Draft.settings, lease, poll, wait]

/-- Every field keeps a draft whole. -/
theorem Draft.Whole.field {f : RecordField Draft} (known : f ∈ fields) {d : Draft}
    (whole : d.Whole) : Makes (f.read d) Draft.Whole := by
  have given {t : Nat} (fits : writtenTime t = t) : ∀ t' ∈ some t, writtenTime t' = t' := by
    rintro t' ⟨⟩
    exact fits
  have time {set : Draft → Nat → Draft} {name : String} {get : Draft → Option Nat}
      (keeps : ∀ t, writtenTime t = t → (set d t).Whole) :
      Makes ((RecordField.ofReader name readMillis get set).read d) Draft.Whole :=
    RecordField.makes_ofReader makes_readMillis keeps
  simp only [fields, List.mem_cons, List.not_mem_nil, or_false] at known
  obtain rfl | rfl | rfl | rfl := known
  · exact RecordField.makes_ofReader (Q := fun _ => True) (fun _ _ _ _ => trivial)
      fun _ _ => { whole with }
  · exact time fun t fits => { whole with lease := given fits }
  · exact time fun t fits => { whole with poll := given fits }
  · exact time fun t fits => { whole with wait := given fits }

theorem makes_read : Makes read fun s => s.written = s := by
  have start : ({} : Draft).Whole := ⟨by simp, by simp, by simp⟩
  refine makes_readRecord (P := Draft.Whole) (fun f known d whole => whole.field known) start ?_
  rintro d s whole ⟨⟩
  exact whole.written_settings

end LockSettings

/-! ## Settings -/

namespace Settings

/-- Settings that are read lose nothing when they are written. -/
theorem makes_read : Makes read fun s => s.written = s := by
  let Whole (d : Draft) : Prop := ∀ l ∈ d.lock, l.written = l
  have keeps : ∀ f ∈ fields, ∀ d, Whole d → Makes (f.read d) Whole := by
    simp only [fields, List.forall_mem_cons]
    refine ⟨fun d whole => ?url, fun d whole => ?lock, fun d whole => ?queue, by simp⟩
    case url =>
      exact RecordField.makes_ofReader (Q := fun _ => True) (fun _ _ _ _ => trivial)
        fun _ _ => whole
    case lock =>
      refine RecordField.makes_ofReader LockSettings.makes_read fun l fits l' => ?_
      rintro ⟨⟩
      exact fits
    case queue =>
      exact RecordField.makes_ofReader (Q := fun _ => True) (fun _ _ _ _ => trivial)
        fun _ _ => whole
  refine makes_readRecord keeps (by simp [Whole]) ?_
  rintro ⟨url, lock, queue⟩ s whole ⟨⟩
  cases lock with
  | none =>
    have default : ({} : LockSettings).written = {} := by decide
    simp [Draft.settings, written, default]
  | some l => simp [Draft.settings, written, whole l rfl]

/-- Settings that were read from a text, in whatever form it says them, have a text that is read as
just these settings, and the text of what is then read is the same again. -/
theorem ofJson_normal {text : String} {s : Settings} (accepted : ofJson text = .ok s) :
    ofJson s.toJson = .ok s ∧ (ofJson s.toJson).map toJson = .ok s.toJson := by
  obtain ⟨s', parsed, looked⟩ : ∃ s', parse read text = .ok s' ∧ s'.checked = .ok s := by
    unfold ofJson at accepted
    split at accepted
    · cases accepted
    · next s' parsed => exact ⟨s', parsed, accepted⟩
  -- looking at settings does not change them
  obtain rfl : s' = s := by
    unfold checked at looked
    split at looked
    · cases looked
    · exact Except.ok.inj looked
  have again : ofJson s'.toJson = .ok s' := by
    rw [ofJson_eq_checked, makes_read.parse parsed, looked]
  exact ⟨again, by rw [again]; rfl⟩

/-- Settings in a list, with an unknown member, an escape in a name and a gap at either end. -/
def mixedForms : String :=
  " [\"redis:\\/\\/h\", \x7b\"more\": [null], \"lea\\u0073e_ms\": 5, \"namespace\": \"l\"\x7d,\n" ++
    "[\"q\", \"d\"]] "

theorem ofJson_normal_mixedForms :
    let s : Settings :=
      { url := "redis://h", lock := { space := "l", lease := 5 * Time.millisecond }
        queue := { space := "q", delayedSpace := "d" } }
    ofJson mixedForms = .ok s ∧ ofJson s.toJson = .ok s := by
  intro s
  have accepted : ofJson mixedForms = .ok s := by rfl
  exact ⟨accepted, (ofJson_normal accepted).1⟩

end Settings

end Turnstile
