import Turnstile.Proofs.Json.Written
import Turnstile.Settings.Json

/-!
# Settings read back from their own text

A text of settings says every length of time in whole milliseconds that fit 64 bits.
`Settings.written` are settings as far as their text says them, and they are what is read from
it (`Settings.parse_toJson`); from then on nothing more is lost (`Settings.toJson_written`).

What is read is looked at once more. A text and an address are what they were, and a lease of
at least one millisecond still is one. An interval between two attempts must be longer than
nothing, and one that is shorter than a millisecond is written as nothing : valid settings with
such an interval have a text that is refused, and all others are read back
(`Settings.ofJson_toJson`).
-/

namespace Turnstile

open Json

/-! ## Lengths of time -/

/-- A length of time as far as its text says it : whole milliseconds that fit 64 bits. -/
def writtenTime (d : Nat) : Nat := Time.ofMillis (min (Time.millis d) maxWord)

theorem millis_writtenTime (d : Nat) :
    Time.millis (writtenTime d) = min (Time.millis d) maxWord :=
  Time.millis_ofMillis _

theorem writtenTime_eq_zero {d : Nat} : writtenTime d = 0 ↔ Time.millis d = 0 := by
  have positive : 0 < maxWord := by decide
  simp only [writtenTime, Time.ofMillis, Time.millisecond]
  omega

theorem writeMillis_writtenTime (d : Nat) : writeMillis (writtenTime d) = writeMillis d := by
  simp [writeMillis, millis_writtenTime]

theorem reads_writeMillis (d : Nat) : Reads readMillis (writeMillis d) (writtenTime d) :=
  (reads_writeNat (Nat.min_le_right ..) (Nat.le_refl _)).map Time.ofMillis

namespace LockSettings

/-- Settings of locks as far as their text says them. -/
def written (s : LockSettings) : LockSettings where
  space := s.space
  lease := writtenTime s.lease
  poll := writtenTime s.poll
  wait := writtenTime s.wait

theorem reads_write (s : LockSettings) : Reads read s.write s.written := by
  refine reads_writeObject (s := {
    space := some s.space
    lease := some (writtenTime s.lease)
    poll := some (writtenTime s.poll)
    wait := some (writtenTime s.wait) }) ?_ rfl
  refine .written rfl (RecordField.reads_ofReader (reads_writeText _) _) ?_
  refine .written rfl (RecordField.reads_ofReader (reads_writeMillis _) _) ?_
  refine .written rfl (RecordField.reads_ofReader (reads_writeMillis _) _) ?_
  exact .written rfl (RecordField.reads_ofReader (reads_writeMillis _) _) (.nil _)

/-- Settings of locks that are valid become invalid by writing only when their interval is
shorter than a millisecond. -/
theorem invalid?_written {s : LockSettings} (valid : s.invalid? = none) :
    s.written.invalid? = if Time.millis s.poll = 0 then some .zeroPoll else none := by
  have lease := one_le_millis valid
  have positive : 0 < maxWord := by decide
  have named : Text.isBlank s.space = false := by
    unfold invalid? at valid
    grind
  have kept : ¬min (Time.millis s.lease) maxWord = 0 := by omega
  simp [invalid?, written, named, millis_writtenTime, kept, writtenTime_eq_zero]

end LockSettings

theorem QueueSettings.reads_write (s : QueueSettings) : Reads read s.write s := by
  refine reads_writeObject (s := {
    space := some s.space
    delayedSpace := some s.delayedSpace }) ?_ rfl
  refine .written rfl (RecordField.reads_ofReader (reads_writeText _) _) ?_
  exact .written rfl (RecordField.reads_ofReader (reads_writeText _) _) (.nil _)

namespace Settings

/-- Settings as far as their text says them. -/
def written (s : Settings) : Settings := { s with lock := s.lock.written }

theorem reads_write (s : Settings) : Reads read s.write s.written := by
  refine reads_writeObject (s := {
    url := some s.url
    lock := some s.lock.written
    queue := some s.queue }) ?_ rfl
  refine .written rfl (RecordField.reads_ofReader (reads_writeText _) _) ?_
  refine .written rfl (RecordField.reads_ofReader s.lock.reads_write _) ?_
  exact .written rfl (RecordField.reads_ofReader s.queue.reads_write _) (.nil _)

/-- What is read back has the same text. -/
theorem toJson_written (s : Settings) : s.written.toJson = s.toJson := by
  simp [toJson, write, written, LockSettings.write, LockSettings.written,
    writeMillis_writtenTime]

/-- Settings, valid or not, are read back as far as their text says them. -/
theorem parse_toJson (s : Settings) : parse read s.toJson = .ok s.written :=
  s.reads_write.parse

theorem ofJson_eq_checked (s : Settings) : ofJson s.toJson = s.written.checked := by
  rw [ofJson, parse_toJson]

/-- Valid settings are read back as far as their text says them, unless the interval between
two attempts is shorter than a millisecond : then the text is refused for it. -/
theorem ofJson_toJson {s : Settings} (valid : s.invalid? = none) :
    ofJson s.toJson =
      if Time.millis s.lock.poll = 0 then .error (.invalid .zeroPoll) else .ok s.written := by
  have named : Text.isBlank s.url = false := by
    unfold invalid? at valid
    grind
  have parts : s.lock.invalid? = none ∧ s.queue.invalid? = none := by
    simpa [invalid?, named] using valid
  have again : s.written.invalid? = s.lock.written.invalid? := by
    simp [invalid?, written, named, parts.2]
  rw [ofJson_eq_checked, checked, again, LockSettings.invalid?_written parts.1]
  by_cases short : Time.millis s.lock.poll = 0
  · simp only [if_pos short]
  · simp only [if_neg short]

/-- Settings whose lengths of time are no whole milliseconds, one of them too long to be
written. -/
def uneven : Settings :=
  { url := "redis://\"cache\"", lock :=
    { lease := 1999999, poll := 1000001, wait := 18446744073709551616 * Time.millisecond } }

theorem ofJson_toJson_uneven :
    uneven.invalid? = none ∧ ofJson uneven.toJson = .ok { uneven with lock :=
      { uneven.lock with
        lease := 1 * Time.millisecond
        poll := 1 * Time.millisecond
        wait := 18446744073709551615 * Time.millisecond } } :=
  ⟨by decide, ofJson_toJson (by decide)⟩

/-- An interval of half a millisecond is valid, and its text is refused. -/
theorem unreadable_interval :
    let s : Settings := { lock := { poll := Time.millisecond / 2 } }
    s.invalid? = none ∧ ofJson s.toJson = .error (.invalid .zeroPoll) := by
  intro s
  have refused : s.written.invalid? = some .zeroPoll := by decide
  exact ⟨by decide, by rw [ofJson_eq_checked, checked, refused]⟩

end Settings

end Turnstile
