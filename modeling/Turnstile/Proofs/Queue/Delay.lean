import Turnstile.Proofs.Queue.Dates

/-!
# How long a delay is

A delay is added to the reading of a clock. The wall clock is read in whole seconds, which cuts
off a part of a second, and the delay is rounded up to whole seconds, which adds one. A payload
is due at the sum. It is handed out early at a clock that reads later than this, if more is cut
off than is added (`CutShort`) : never by a whole second, and not at all if the clock was on a
whole second when the delay was given.

`relative_delay` : this is how long a delay is, in every state that a store can come to, for
whatever happens to the store meanwhile, and not longer.
-/

namespace Turnstile

/-! ## Until a payload is put in again -/

/-- Whether an access puts a payload in the delayed queue of a key. -/
def Access.Puts (key p : String) : Access → Prop
  | .eval r => ∃ date, Action.ofRequest r = .ok (.delayedPush key p date)
  | _ => False

/-- A payload that is not put in again keeps its date, or does not wait any more. -/
theorem Waiting.Step.keeps {key p : String} {w w' : Waiting} {r : Request} {answer : Answer}
    (step : Step key w r answer w') (other : ¬(Access.eval r).Puts key p) :
    w' p = w p ∨ w' p = none := by
  cases step with
  | @put p' date asked =>
    have ne : p ≠ p' := by
      rintro rfl
      exact other ⟨date, asked⟩
    exact .inl (Function.update_of_ne ne ..)
  | @deliver _ _ p' | @remove p' =>
    by_cases same : p = p'
    · subst same
      exact .inr (Function.update_self ..)
    · exact .inl (Function.update_of_ne same ..)
  | destroy => exact .inr rfl
  | wait | count | refuse | leave => exact .inl rfl

/-- A payload that waits alone is the first. -/
theorem Waiting.isFirst_alone (p : String) (date : Int) :
    IsFirst (Function.update empty p (some date)) p date := by
  refine ⟨Function.update_self .., fun p' date' waits => .inr ?_⟩
  by_cases same : p' = p
  · subst same
    rw [Function.update_self] at waits
    exact ⟨Option.some.inj waits, List.le_refl _⟩
  · rw [Function.update_of_ne same] at waits
    cases waits

namespace Keyspace

variable {k : Keyspace} {key p : String}

theorem Sound.waiting_touch (sound : k.Sound) (now : Nat) (other : String) :
    (k.touch now other).waiting key = k.waiting key := by
  rw [(sound.touch now other).waiting_eq now, sound.waiting_eq now, live?_touch]

theorem waiting_access (sound : k.Sound) {now : Nat} {x : Access}
    (other : ¬x.Puts key p) :
    (k.access now x).2.waiting key p = k.waiting key p ∨
      (k.access now x).2.waiting key p = none := by
  cases x with
  | eval r => exact (sound.step_waiting now r key).keeps other
  | contains touched | timeLeft touched =>
    exact .inl (congrFun (sound.waiting_touch now touched) p)
  | clear =>
    right
    rw [(sound.access now .clear).waiting_eq now]
    exact congrFun (congrArg Waiting.ofEntry (k.live?_clear now key)) p

theorem waiting_replay (sound : k.Sound) {later : List (Nat × Access)}
    (others : ∀ x ∈ later, ¬x.2.Puts key p) :
    (replay Keyspace.access later k).2.waiting key p = k.waiting key p ∨
      (replay Keyspace.access later k).2.waiting key p = none := by
  induction later generalizing k with
  | nil => exact .inl rfl
  | cons x later ih =>
    rw [List.forall_mem_cons] at others
    rcases ih (sound.access x.1 x.2) others.2 with kept | gone
    · rcases waiting_access sound others.1 with kept' | gone'
      · exact .inl (kept.trans kept')
      · exact .inr (kept.trans gone')
    · exact .inr gone

theorem Sound.step_of_answer (sound : k.Sound) {now : Nat} {r : Request} {reply : Reply}
    (answered : (k.eval now r).1 = .ok reply) (key : String) :
    Waiting.Step key (k.waiting key) r (.ok reply) ((k.eval now r).2.waiting key) :=
  answered ▸ sound.step_waiting now r key

/-- Where a payload waits, the key holds a sorted set. -/
theorem Sound.sorted_of_waiting (sound : k.Sound) {date : Int}
    (waits : k.waiting key p = some date) (now : Nat) :
    ∀ e ∈ k.live? now key, ∃ set, e.value = .sorted set := by
  rw [sound.waiting_eq now] at waits
  intro e live
  rw [Option.mem_def.1 live] at waits
  obtain ⟨_ | _ | set, _⟩ := e
  · cases waits
  · cases waits
  · exact ⟨set, rfl⟩

end Keyspace

namespace Queue

/-! ## Operations that succeed -/

section Operations

variable {q : Queue} {k : Keyspace} {now : Nat} {name p : String}

theorem Operation.sound_on {α : Type} (o : Operation α) (sound : k.Sound) (now : Nat) :
    (o.on k now).2.Sound := by
  cases o with
  | error e => exact sound
  | ok x => exact sound.eval now x.request

theorem not_isBlank_of_on {α : Type} {x : String → Exchange Event Error α} {a : α}
    (done : (Operation.on ((q.delayedKey name).map x) k now).1 = .ok a) :
    Text.isBlank name = false := by
  cases blank : Text.isBlank name with
  | false => rfl
  | true =>
    simp [delayedKey, checkedKey, blank, Except.map, Operation.on] at done

/-- An exchange that succeeds was answered with a reply. -/
theorem Operation.reply_of_on {α : Type} {request : Request}
    {result : Reply → Except StoreError α} {events : α → List Event} {a : α}
    (done : (Operation.on (.ok (.ofReply request .store result events)) k now).1 = .ok a) :
    ∃ reply, (k.eval now request).1 = .ok reply ∧ result reply = .ok a := by
  simp only [Operation.on, Exchange.ofReply] at done
  rcases answered : (k.eval now request).1 with e | reply
  · rw [answered] at done
    cases done
  · rw [answered] at done
    rcases made : result reply with e | a'
    · simp [Except.bind, made] at done
    · simp only [Except.bind, made, Except.ok.injEq] at done
      exact ⟨reply, rfl, made.trans (congrArg Except.ok done)⟩

/-- A payload that was put in waits for its date, which fits 63 bits. -/
theorem waiting_of_enqueueDelayed (sound : k.Sound) {readyAt : UInt64} {isNew : Bool}
    (done : ((q.enqueueDelayed name p readyAt).on k now).1 = .ok isNew) :
    readyAt.toNat ≤ 9223372036854775807 ∧
      ((q.enqueueDelayed name p readyAt).on k now).2.waiting
        (keyIn q.settings.delayedSpace name) p = some (readyAt.toNat : Int) := by
  have named := not_isBlank_of_on done
  rcases Nat.lt_or_ge 9223372036854775807 readyAt.toNat with large | fits
  · rw [enqueueDelayed_on_of_lt named p large] at done
    cases done
  have asked := ofRequest_delayedPush (keyIn q.settings.delayedSpace name) p fits
  rw [enqueueDelayed, delayedKey_of_not_isBlank named] at done ⊢
  obtain ⟨reply, answered, -⟩ := Operation.reply_of_on done
  have step := sound.step_of_answer answered (keyIn q.settings.delayedSpace name)
  have after := (step.put_of_reply asked).2
  exact ⟨fits, (congrFun after p).trans (Function.update_self ..)⟩

/-- A payload that was taken out waited, for a date that has come. -/
theorem waiting_of_dequeueDelayed (sound : k.Sound) {clock : UInt64}
    (done : ((q.dequeueDelayed clock name).on k now).1 = .ok (some p)) :
    ∃ date : Int, k.waiting (keyIn q.settings.delayedSpace name) p = some date ∧
      date ≤ clock.toNat := by
  have named := not_isBlank_of_on done
  rcases Nat.lt_or_ge 9223372036854775807 clock.toNat with large | fits
  · rw [dequeueDelayed_on_of_lt named large] at done
    cases done
  have asked := ofRequest_delayedPop (keyIn q.settings.delayedSpace name) fits
  rw [dequeueDelayed, delayedKey_of_not_isBlank named] at done
  obtain ⟨reply, answered, same⟩ := Operation.reply_of_on done
  have step := sound.step_of_answer answered (keyIn q.settings.delayedSpace name)
  obtain ⟨item, rfl, first, -⟩ := step.pop_of_reply asked
  have taken : item = some p := by
    cases item <;> exact Except.ok.inj same
  obtain ⟨date, waits, ready⟩ := (first p).1 taken
  exact ⟨date, waits.1, ready⟩

end Operations

/-! ## The clock -/

theorem toNat_wallSeconds {w : Nat} (range : Time.seconds w < 18446744073709551616) :
    (wallSeconds w).toNat = Time.seconds w :=
  UInt64.toNat_ofNat_of_lt' range

/-- The date of a delay of `d` that is given at `w`. -/
def due (w d : Nat) : Nat := Time.seconds w + Time.secondsUp d

/-- What reading the clock at `w` cuts off is more than what rounding adds to a delay of `d`. -/
def CutShort (w d : Nat) : Prop := Time.secondsUp d * Time.second < w % Time.second + d

theorem not_cutShort_of_whole {w : Nat} (whole : w % Time.second = 0) (d : Nat) :
    ¬CutShort w d := by
  have rounded := Time.le_secondsUp d
  unfold CutShort
  omega

theorem due_le_seconds_iff {w d w' : Nat} :
    due w d ≤ Time.seconds w' ↔ due w d * Time.second ≤ w' := by
  have some : 0 < Time.second := by decide
  rw [Time.seconds, Nat.le_div_iff_mul_le some]

section Arithmetic

variable {w d w' : Nat}

theorem due_mul_second (w d : Nat) :
    due w d * Time.second + w % Time.second = w + Time.secondsUp d * Time.second := by
  rw [due, Time.seconds, Nat.add_mul, Nat.add_right_comm, Nat.div_add_mod']

/-- A delay is less than a second too short. -/
theorem lt_of_due (ready : due w d ≤ Time.seconds w') : w + d < w' + Time.second := by
  have sum := due_mul_second w d
  have cut := Nat.mod_lt w (show 0 < Time.second by decide)
  have rounded := Time.le_secondsUp d
  have late := due_le_seconds_iff.1 ready
  omega

theorem le_of_due (long : ¬CutShort w d) (ready : due w d ≤ Time.seconds w') : w + d ≤ w' := by
  have sum := due_mul_second w d
  have late := due_le_seconds_iff.1 ready
  unfold CutShort at long
  omega

/-- A delay that is cut short is over too early, but not before it is given. -/
theorem CutShort.early (short : CutShort w d) (some : 0 < d) :
    w ≤ due w d * Time.second ∧ due w d * Time.second < w + d := by
  have sum := due_mul_second w d
  have cut := Nat.mod_lt w (show 0 < Time.second by decide)
  have rounded := Time.le_secondsUp d
  have up : Time.second ≤ Time.secondsUp d * Time.second :=
    Nat.le_mul_of_pos_left _ (Nat.pos_of_ne_zero fun zero => by rw [zero] at rounded; omega)
  unfold CutShort at short
  omega

end Arithmetic

/-! ## Delays -/

/-- A payload is put in at `w` with a delay of `d`, in any state that a store can come to. It
waits for a date that is reckoned in whole seconds, and its delay is not cut short if the clock
was on a whole second.

* Whatever happens to the store meanwhile, other than that it is put in again, the payload is
  handed out on a wall clock at `w'` only when this date has come, less than a second too early,
  and not too early at all unless the delay is cut short.
* If it is the first of what waits, it is handed out as soon as its date has come. So if its
  delay is cut short, it is handed out early. -/
theorem relative_delay (q : Queue) (past : List (Nat × Access)) (now : Nat) (name p : String)
    (w d : Nat) (isNew : Bool) (range : Time.seconds w < 18446744073709551616)
    (scheduled : ((q.enqueueAfter (wallSeconds w) name p d).on
      (replay Keyspace.access past {}).2 now).1 = .ok isNew) :
    let k := ((q.enqueueAfter (wallSeconds w) name p d).on
      (replay Keyspace.access past {}).2 now).2
    let key := keyIn q.settings.delayedSpace name
    k.waiting key p = some (due w d : Int) ∧ (w % Time.second = 0 → ¬CutShort w d) ∧
      (∀ later now' w', (∀ x ∈ later, ¬x.2.Puts key p) →
        Time.seconds w' < 18446744073709551616 →
        ((q.dequeueDelayed (wallSeconds w') name).on
          (replay Keyspace.access later k).2 now').1 = .ok (some p) →
        due w d * Time.second ≤ w' ∧ w + d < w' + Time.second ∧
          (¬CutShort w d → w + d ≤ w')) ∧
      ∀ now', (k.waiting key).IsFirst p (due w d) →
        (∀ w', Time.seconds w' ≤ 9223372036854775807 →
          (((q.dequeueDelayed (wallSeconds w') name).on k now').1 = .ok (some p) ↔
            due w d * Time.second ≤ w')) ∧
        (CutShort w d → 0 < d → ∃ w', w ≤ w' ∧ w' < w + d ∧
          ((q.dequeueDelayed (wallSeconds w') name).on k now').1 = .ok (some p)) := by
  intro k key
  have sound₀ : (replay Keyspace.access past {}).2.Sound := Keyspace.Sound.empty.replay past
  have named := not_isBlank_of_on scheduled
  obtain ⟨fits, waits⟩ := waiting_of_enqueueDelayed sound₀ scheduled
  -- a date that was taken fits 63 bits, so it is the sum and not the greatest date
  have date : (dateAfter (wallSeconds w) d).toNat = due w d := by
    rw [toNat_dateAfter, toNat_wallSeconds range] at fits ⊢
    unfold due
    omega
  rw [date] at fits waits
  have sound : k.Sound := Operation.sound_on _ sound₀ now
  refine ⟨waits, fun whole => not_cutShort_of_whole whole d, ?only, ?early⟩
  case only =>
    intro later now' w' others range' taken
    obtain ⟨date', waits', ready⟩ := waiting_of_dequeueDelayed (sound.replay later) taken
    have ready : due w d ≤ Time.seconds w' := by
      rw [toNat_wallSeconds range'] at ready
      rcases Keyspace.waiting_replay sound others with kept | gone
      · have same : date' = due w d := Option.some.inj (waits'.symm.trans (kept.trans waits))
        omega
      · cases gone.symm.trans waits'
    exact ⟨due_le_seconds_iff.1 ready, lt_of_due ready, fun long => le_of_due long ready⟩
  case early =>
    intro now' first
    have taken (w' : Nat) (range' : Time.seconds w' ≤ 9223372036854775807) :
        ((q.dequeueDelayed (wallSeconds w') name).on k now').1 = .ok (some p) ↔
          due w d * Time.second ≤ w' := by
      have clock := toNat_wallSeconds (w := w') (by omega)
      have fits' : (wallSeconds w').toNat ≤ 9223372036854775807 := by omega
      obtain ⟨item, done, only, -⟩ := dequeueDelayed_on_of_le named sound
        (sound.sorted_of_waiting waits now') fits'
      rw [done, ← due_le_seconds_iff, Except.ok.injEq, only]
      constructor
      · rintro ⟨date', first', ready⟩
        have same : date' = due w d := Option.some.inj (first'.1.symm.trans waits)
        omega
      · exact fun ready => ⟨due w d, first, by omega⟩
    refine ⟨taken, fun short some => ?_⟩
    -- the moment at which the date comes is early enough
    obtain ⟨after, before⟩ := short.early some
    refine ⟨due w d * Time.second, after, before, (taken _ ?_).2 (Nat.le_refl _)⟩
    rw [Time.seconds, Nat.mul_div_cancel _ (by decide)]
    exact fits

/-- A payload that is put into an empty store is the first. -/
theorem isFirst_of_enqueueDelayed {q : Queue} {name : String}
    (named : Text.isBlank name = false) (p : String) {readyAt : UInt64}
    (fits : readyAt.toNat ≤ 9223372036854775807) :
    let done := (q.enqueueDelayed name p readyAt).on {} 0
    done.1 = .ok true ∧
      (done.2.waiting (keyIn q.settings.delayedSpace name)).IsFirst p readyAt.toNat := by
  intro done
  have absent : ({} : Keyspace).live? 0 (keyIn q.settings.delayedSpace name) = none :=
    Keyspace.live?_clear {} 0 _
  have nothing : ({} : Keyspace).waiting (keyIn q.settings.delayedSpace name) = Waiting.empty := by
    rw [Keyspace.Sound.empty.waiting_eq 0, absent]
    rfl
  have free : ∀ e ∈ ({} : Keyspace).live? 0 (keyIn q.settings.delayedSpace name),
      ∃ set, e.value = .sorted set := by
    simp [absent]
  obtain ⟨added, waits⟩ := enqueueDelayed_on_of_le (q := q) named .empty free p fits
  rw [nothing] at added waits
  refine ⟨added, ?_⟩
  rw [waits]
  exact Waiting.isFirst_alone p readyAt.toNat

/-- A delay of one and a half seconds from a clock at 0.3 seconds is over at two seconds. -/
theorem relative_delay_long :
    let q : Queue := ⟨{}, rfl⟩
    let done := (q.enqueueAfter (wallSeconds (300000000 : Nat)) "x" "p" 1500000000).on {} 0
    done.1 = .ok true ∧
      ((q.dequeueDelayed (wallSeconds (2000000000 : Nat)) "x").on done.2 0).1 =
        .ok (some "p") ∧
      ((q.dequeueDelayed (wallSeconds (1999999999 : Nat)) "x").on done.2 0).1 ≠
        .ok (some "p") := by
  intro q done
  have date : dateAfter (wallSeconds (300000000 : Nat)) 1500000000 = 2 := by decide
  have put : done = (q.enqueueDelayed "x" "p" 2).on {} 0 := by
    rw [← date]
    rfl
  have named : Text.isBlank "x" = false := by decide
  have fits : (2 : UInt64).toNat ≤ 9223372036854775807 := by decide
  obtain ⟨added, first⟩ := isFirst_of_enqueueDelayed (q := q) named "p" fits
  rw [← put] at added first
  obtain ⟨-, -, only, early⟩ :=
    relative_delay q [] 0 "x" "p" 300000000 1500000000 true (by decide) added
  have date' : ((due 300000000 1500000000 : Nat) : Int) = ((2 : UInt64).toNat : Int) := by decide
  rw [← date'] at first
  refine ⟨added, ((early 0 first).1 2000000000 (by decide)).2 (by decide), fun taken => ?_⟩
  have ready := (only [] 0 1999999999 (by simp) (by decide) taken).1
  exact absurd ready (by decide)

/-- A delay of one second from a clock at 0.9 seconds is over a tenth of a second later. -/
theorem short_delay :
    let q : Queue := ⟨{}, rfl⟩
    let done := (q.enqueueAfter (wallSeconds 900000000) "x" "p" Time.second).on {} 0
    done.1 = .ok true ∧
      ((q.dequeueDelayed (wallSeconds 1000000000) "x").on done.2 0).1 = .ok (some "p") := by
  intro q done
  have date : dateAfter (wallSeconds 900000000) Time.second = 1 := by decide
  have clock : wallSeconds 1000000000 = 1 := by decide
  have named : Text.isBlank "x" = false := by decide
  have fits : (1 : UInt64).toNat ≤ 9223372036854775807 := by decide
  have put : done = (q.enqueueDelayed "x" "p" 1).on {} 0 := by
    rw [← date]
    rfl
  obtain ⟨added, first⟩ := isFirst_of_enqueueDelayed (q := q) named "p" fits
  rw [← put] at added first
  have sound : done.2.Sound := Operation.sound_on _ .empty 0
  obtain ⟨item, answered, only, -⟩ :=
    dequeueDelayed_on_of_le named sound (sound.sorted_of_waiting first.1 0) fits
  have taken : item = some "p" := (only "p").2 ⟨1, first, by decide⟩
  rw [clock]
  exact ⟨added, answered.trans (congrArg _ taken)⟩

end Queue

end Turnstile
