import Turnstile.Proofs.Lock.Renewal
import Turnstile.Settings.Json

/-!
# The first attempt

Settings that are valid should be good for a lock. `first_attempt` : a handle with such settings
is always made, and its first attempt on a key that is free takes the lock for the whole
milliseconds of its lease, if these fit 63 bits. No settings are refused for a lease that is
longer, though, and with such a lease every attempt is refused by the store (`unusable_lease`).
-/

namespace Turnstile

/-- The settings of locks that come with settings from a text are valid. -/
theorem Settings.lock_invalid?_of_ofJson {text : String} {s : Settings}
    (read : Settings.ofJson text = .ok s) : s.lock.invalid? = none := by
  unfold ofJson checked at read
  split at read
  · cases read
  · split at read
    · cases read
    · next valid =>
      obtain rfl := Except.ok.inj read
      unfold invalid? at valid
      split at valid
      · cases valid
      · simp only [Option.orElse_eq_orElse, Option.orElse_eq_or, Option.or_eq_none_iff] at valid
        exact valid.1

/-- What is left of an entry that expires. -/
theorem Keyspace.fst_timeLeft? {k : Keyspace} {now expiry : Nat} {key : String} {value : Value}
    (live : k.live? now key = some ⟨value, some expiry⟩) :
    (k.timeLeft? now key).1 = some (expiry - now) := by
  simp only [timeLeft?, getElem?_touch_self, live]
  rfl

namespace Lock

/-- A manager makes a handle for a name that is not blank from settings that are valid. -/
theorem Manager.handle_ok (m : Manager) (thread : Nat) (serials : SerialCounter) {name : String}
    {settings : Option LockSettings} (named : Text.isBlank name = false)
    (valid : (settings.getD m.settings).invalid? = none) :
    ∃ h, (m.handle thread serials name settings).1 = .ok h := by
  have make (token : Token) : ∃ h, Handle.make name (settings.getD m.settings) token = .ok h := by
    unfold Handle.make
    rw [if_neg (by simp [named])]
    split
    · next invalid => cases valid.symm.trans invalid
    · exact ⟨_, rfl⟩
  obtain ⟨h, made⟩ := make (m.source.token thread serials.next.1)
  refine ⟨h, ?_⟩
  unfold Manager.handle
  dsimp only
  rw [made]

/-- A handle as a crew of its own. -/
def Crew.single {m : Manager} {thread : Nat} {serials : SerialCounter} {name : String}
    {settings : Option LockSettings} {h : Handle}
    (made : (m.handle thread serials name settings).1 = .ok h) : Crew Unit where
  key := h.key
  handle _ := h
  key_handle _ := rfl
  obtained _ := ⟨m, thread, serials, name, settings, made⟩

namespace Crew

variable {ι : Type} [DecidableEq ι] {crew : Crew ι} {s : System ι} {i : ι}

variable (crew) in
/-- A question with nobody else about is answered at once. -/
theorem ask_among_nil (i : ι) (s : System ι) (r : Request) :
    (crew.among i).ask r ⟨s, []⟩ =
      ((s.store.eval s.now r).1, 0, ⟨{ s with store := (s.store.eval s.now r).2 }, []⟩) := by
  rw [ask_among _ _ _ rfl]
  exact Prod.ext rfl (Prod.ext (Nat.sub_self _) rfl)

/-- An attempt of a handle that holds nothing, with nobody else about, asks for the key to be
taken. If the answer ends it, this is all that it does. -/
theorem run_first (unheld : (s.client i).hold = .none) {answer : Answer} {store : Keyspace}
    (asked : s.store.eval s.now (Stage.acquiring.request (crew.handle i)) = (answer, store))
    {result : Except StoreError Bool}
    (finishes : (Stage.acquiring.resume .none answer).next = .finish result) :
    ∃ p, (crew.handle i).run (crew.among i) .tryLock ⟨s, []⟩ = (result, 0, p) ∧
      p.system.now = s.now ∧ p.system.store = store ∧
      (p.system.client i).hold = (Stage.acquiring.resume .none answer).hold := by
  let last := Stage.acquiring.resume .none answer
  let answered : Course ι := ⟨{ s with store }, []⟩
  have same : (crew.among i).commit .none [] ⟨s, []⟩ = ⟨s, []⟩ := by
    have same := crew.commit_hold i [] ⟨s, []⟩
    rwa [show (crew.among i).hold ⟨s, []⟩ = .none from unheld] at same
  have start : Call.tryLock.start ((crew.among i).hold ⟨s, []⟩) =
      ⟨.none, [], .ask .acquiring⟩ := by
    rw [show (crew.among i).hold ⟨s, []⟩ = .none from unheld]
    rfl
  have hold : (crew.among i).hold answered = .none := unheld
  have answers := crew.ask_among_nil i s (Stage.acquiring.request (crew.handle i))
  rw [← same, asked] at answers
  refine ⟨(crew.among i).commit last.hold last.events answered, ?_, rfl, rfl,
    congrArg Client.hold (System.client_setClient ..)⟩
  rw [Handle.run, start, Handle.follow_of_answer rfl answers (by rw [hold]; exact finishes), hold]

end Crew

/-- The first attempt of a handle with valid settings, among them all that come with settings from
a text. A manager makes the handle for every name that is not blank, on the key of the name.

Let the handle hold nothing and the key be free, whatever else is in the store. If the whole
milliseconds of the lease fit 63 bits, the attempt takes the lock, and the key is left with just
these milliseconds. If they do not, the store refuses the attempt, and nothing changes. -/
theorem first_attempt (m : Manager) (thread : Nat) (serials : SerialCounter) (name : String)
    (given : Option LockSettings) (named : Text.isBlank name = false)
    (valid : (given.getD m.settings).invalid? = none) :
    (∀ text s, Settings.ofJson text = .ok s → s.lock.invalid? = none) ∧
    let settings := given.getD m.settings
    ∃ (h : Handle) (made : (m.handle thread serials name given).1 = .ok h),
      h.key = keyIn settings.space name ∧ ∀ s : System Unit, (s.client ()).hold = .none →
        s.store.live? s.now h.key = none →
        let millis := Time.millis settings.lease
        ∃ result p, h.run ((Crew.single made).among ()) .tryLock ⟨s, []⟩ = (result, 0, p) ∧
          if millis ≤ 9223372036854775807 then
            result = .ok true ∧ (p.system.client ()).hold = .fresh ∧
              (p.system.store.timeLeft? p.system.now h.key).1 = some (Time.ofMillis millis)
          else
            result = .error (.invalidArgument "lock.acquire"
              (Text.quoted (Text.Decimal.ofNat millis) ++ " is not an integer")) ∧
            (p.system.client ()).hold = .none ∧
              p.system.store.live? p.system.now h.key = none := by
  refine ⟨fun text s => Settings.lock_invalid?_of_ofJson, ?_⟩
  intro settings
  obtain ⟨h, made⟩ := m.handle_ok thread serials named valid
  obtain ⟨key, -, lease⟩ := Handle.of_make (Manager.make_of_handle made)
  refine ⟨h, made, key, ?_⟩
  intro s unheld absent millis
  -- a valid lease is at least a millisecond
  have wire : h.leaseMillis = millis := by
    unfold Handle.leaseMillis
    rw [lease]
    exact Nat.max_eq_left (LockSettings.one_le_millis valid)
  split
  · next fits =>
    have outcome := Stage.acquiring.outcome h s.store s.now
    rw [absent] at outcome
    obtain ⟨yes, taken⟩ := outcome.taken_of_none (wire ▸ fits)
    obtain ⟨p, ran, now, store, hold⟩ :=
      (Crew.single made).run_first unheld (Prod.ext yes rfl) rfl
    refine ⟨_, p, ran, rfl, hold, ?_⟩
    rw [now, store, ← wire, ← Handle.span]
    exact (Keyspace.fst_timeLeft? taken).trans (congrArg some (Nat.add_sub_cancel_left ..))
  · next large =>
    have refused : Action.ofRequest (Stage.acquiring.request h) =
        .error (h.leaseRefusal "lock.acquire") := by
      rcases Stage.ofRequest_request h .acquiring with ⟨fits, -⟩ | ⟨-, refused⟩
      · exact absurd (wire ▸ fits (by simp)) large
      · exact refused
    obtain ⟨p, ran, now, store, hold⟩ :=
      (Crew.single made).run_first unheld (Keyspace.eval_of_error s.store s.now refused) rfl
    refine ⟨_, p, ran, ?_, hold, ?_⟩
    · rw [Handle.leaseRefusal, Handle.leaseArg, wire]
    · rw [now, store, Keyspace.live?_tick, absent]

/-- A text with a lease of 2 ^ 63 milliseconds. -/
def longLease : String := "\x7b\"lock\":\x7b\"lease_ms\":9223372036854775808\x7d\x7d"

/-- The settings of that text are accepted, and the lock cannot be had with them. -/
theorem unusable_lease :
    ∃ s, Settings.ofJson longLease = .ok s ∧ s.lock.invalid? = none ∧
      ∃ (h : Handle) (made : (Manager.handle ⟨s.lock, ⟨"h", 1⟩⟩ 1 ⟨0, SerialCounter.tokenLimit⟩
          "x" none).1 = .ok h),
        (h.run ((Crew.single made).among ()) .tryLock ⟨{}, []⟩).1 =
          .error (.invalidArgument "lock.acquire"
            "\"9223372036854775808\" is not an integer") := by
  refine ⟨{ lock := { lease := Time.ofMillis 9223372036854775808 } }, by rfl, by decide,
    { Crew.twoThreads.handle false with lease := Time.ofMillis 9223372036854775808 }, rfl, ?_⟩
  rw [Handle.run, Handle.follow_of_ask _ _ _ _ rfl, Handle.follow_of_finish _ _ _ _ rfl]
  rfl

theorem first_attempt_default :
    (∀ s, Settings.ofJson longLease = .ok s → s.lock.invalid? = none) ∧
      ∃ (h : Handle) (made : (Manager.handle ⟨{}, ⟨"h", 1⟩⟩ 1 ⟨0, SerialCounter.tokenLimit⟩
          "x" none).1 = .ok h) (p : Course Unit),
        h.run ((Crew.single made).among ()) .tryLock ⟨{}, []⟩ = (.ok true, 0, p) ∧
          (p.system.store.timeLeft? p.system.now h.key).1 = some (30 * Time.second) := by
  obtain ⟨texts, h, made, -, attempt⟩ := first_attempt ⟨{}, ⟨"h", 1⟩⟩ 1
    ⟨0, SerialCounter.tokenLimit⟩ "x" none (by decide) (by decide)
  refine ⟨texts longLease, ?_⟩
  obtain ⟨result, p, ran, taken⟩ := attempt {} rfl (by simp [Keyspace.live?])
  split at taken
  · obtain ⟨rfl, -, left⟩ := taken
    exact ⟨h, made, p, ran, left⟩
  · next large => exact absurd (by decide) large

end Lock

end Turnstile
