import Turnstile.Proofs.Lua.Run
import Turnstile.Proofs.Lua.View

/-!
# Bodies on one key

Every body but that of a deletion works on one key. `Lua.Agrees` says that its run ended as
the action of the keyspace on that key does (`Action.effect`) : the client makes the same
answer of it, and the same becomes of the key. For each of the twelve bodies there is a theorem
that it does, on requests of the kind that clients make : a lease is a positive number of
milliseconds, and scores and dates are whole numbers that a double stands for.
-/

namespace Turnstile

namespace Lua

/-! ## Numbers -/

theorem wholeNumber?_bytes {s : String} {n : Int} (read : Text.Decimal.readInt64? s = some n)
    (precise : isExact n) : wholeNumber? (Text.bytes s) = some n := by
  unfold wholeNumber?
  rw [Text.exactText?_bytes, Option.bind_some, (Option.filter_eq_some_iff.1 read).1,
    Option.filter_some, if_pos precise]

theorem wholeNumber?_digits {n : Int} (precise : isExact n) : wholeNumber? (digits n) = some n := by
  unfold wholeNumber? digits
  rw [Text.exactText?_bytes, Option.bind_some, Text.Decimal.readInt?_ofInt, Option.filter_some,
    if_pos precise]

/-- A lease in milliseconds that is positive and ends before the end of time. -/
def LeaseFits (now millis : Nat) : Prop :=
  0 < millis ∧ Text.Decimal.fitsInt64 (Time.millis (now + Time.ofMillis millis))

namespace LeaseFits

variable {now millis : Nat} (h : LeaseFits now millis)

include h

theorem le_max : millis ≤ 9223372036854775807 := by
  have fits := h.2
  have le : millis ≤ Time.millis (now + Time.ofMillis millis) := by
    unfold Time.millis Time.ofMillis
    rw [Nat.add_mul_div_right _ _ (by decide)]
    exact Nat.le_add_left _ _
  simp only [Text.Decimal.fitsInt64, Bool.and_eq_true, decide_eq_true_eq] at fits
  omega

theorem exactInt? : exactInt? (Text.bytes (Text.Decimal.ofNat millis)) = some (millis : Int) := by
  unfold Lua.exactInt?
  rw [Text.exactText?_bytes, Option.bind_some, Text.Decimal.readInt64?_ofNat millis h.le_max,
    Option.filter_some, if_pos]
  exact decide_eq_true rfl

theorem expiry? : expiry? now millis = some (now + Time.ofMillis millis) := by
  unfold Lua.expiry?
  exact if_pos h.2

variable {d : Dataset} {key : Bytes}

theorem set_eq (value : Bytes) :
    Lua.set now key value (Text.bytes (Text.Decimal.ofNat millis)) d =
      match d key with
      | some _ => (.ok (.bool false), d)
      | none =>
        (.ok .okay,
          Function.update d key (some ⟨.text value, some (now + Time.ofMillis millis)⟩)) := by
  have positive : (some (millis : Int)).filter (0 < ·) = some (millis : Int) := by
    simp [Option.filter_some, h.1]
  unfold Lua.set
  rw [h.exactInt?, positive, Option.bind_some, h.expiry?]
  cases d key <;> rfl

theorem pexpire_eq {r : Record} (present : d key = some r) :
    Lua.pexpire now key (Text.bytes (Text.Decimal.ofNat millis)) d =
      (.ok (.number 1),
        Function.update d key (some ⟨r.data, some (now + Time.ofMillis millis)⟩)) := by
  have future : ¬now + Time.ofMillis millis ≤ now := by
    have := h.1
    unfold Time.ofMillis Time.millisecond
    omega
  unfold Lua.pexpire
  rw [h.exactInt?, Option.bind_some, h.expiry?, present]
  dsimp only
  rw [if_neg future]

end LeaseFits

theorem part_length (b start : Bytes) : Value.part b 1 start.length = start ↔ start <+: b := by
  rw [List.prefix_iff_eq_take]
  have whole : ¬(start.length : Int) < 0 := by omega
  simp [Value.part, whole, eq_comm]

/-! ## One key -/

/-- A body that ran on a key ended as an action on the key does, where `live` is what is live
there : the answer is the same, and so is what becomes of the key. -/
def Agrees (now : Nat) (key : String) (live : Option Entry) (d : Dataset) (a : Action)
    (ended : Except Fault Value × Dataset) : Prop :=
  answer? [key] ended.1 = some (a.effect now live).1 ∧
    ended.2 = Function.update d (Text.bytes key) (((a.effect now live).2.on live).map Record.of)

theorem answer?_text (keys : List String) (s : String) :
    answer? keys (.ok (.text (Text.bytes s))) = some (.ok (.text s)) := by
  have read : String.fromUTF8? ⟨(Text.bytes s).toArray⟩ = some s := Text.exactText?_bytes s
  simp [answer?, Value.sent, ServerValue.reply, read, Except.toOption]

namespace Agrees

variable {now : Nat} {key : String} {live : Option Entry} {d : Dataset} {a : Action}
  {ended : Except Fault Value × Dataset} {answer : Answer} (outcome : Except Fault Value)

/-- Nothing changes on either side. -/
theorem keep (run : ended = (outcome, d)) (effect : a.effect now live = (answer, .keep))
    (same : answer? [key] outcome = some answer)
    (shown : d (Text.bytes key) = live.map Record.of) : Agrees now key live d a ended := by
  rw [run]
  refine ⟨by rw [effect, same], ?_⟩
  rw [effect, Change.on_keep, ← shown, Function.update_eq_self]

/-- Both sides find a value of another kind. -/
theorem refuse (run : ended = (.error .wrongType, d))
    (effect : a.effect now live = (.error (.wrongType key), .keep))
    (shown : d (Text.bytes key) = live.map Record.of) : Agrees now key live d a ended :=
  keep _ run effect rfl shown

/-- Both sides store the same entry. -/
theorem put (e : Entry)
    (run : ended = (outcome, Function.update d (Text.bytes key) (some (Record.of e))))
    (effect : a.effect now live = (answer, .put e)) (same : answer? [key] outcome = some answer) :
    Agrees now key live d a ended := by
  rw [run]
  refine ⟨by rw [effect, same], ?_⟩
  rw [effect]
  rfl

/-- Both sides delete the key. -/
theorem drop (run : ended = (outcome, Function.update d (Text.bytes key) none))
    (effect : a.effect now live = (answer, .drop)) (same : answer? [key] outcome = some answer) :
    Agrees now key live d a ended := by
  rw [run]
  refine ⟨by rw [effect, same], ?_⟩
  rw [effect]
  rfl

/-- Both sides store the same collection, unless it has become empty. -/
theorem store (e : Entry) (run : ended = (outcome, d.store (Text.bytes key) (Record.of e)))
    (effect : a.effect now live = (answer, .store e)) (same : answer? [key] outcome = some answer)
    (alike : (Data.of e.value).isEmptyCollection = e.value.isEmptyCollection) :
    Agrees now key live d a ended := by
  rw [run]
  refine ⟨by rw [effect, same], ?_⟩
  rw [effect, Dataset.store_of alike]

/-- A collection is stored again as it was. -/
theorem stay (e : Entry) (filled : e.value.isEmptyCollection = false) (run : ended = (outcome, d))
    (effect : a.effect now (some e) = (answer, .store e))
    (same : answer? [key] outcome = some answer)
    (shown : d (Text.bytes key) = some (Record.of e)) : Agrees now key (some e) d a ended := by
  rw [run]
  refine ⟨by rw [effect, same], ?_⟩
  rw [effect, Change.store, filled]
  exact (Function.update_eq_self_iff.2 shown.symm).symm

end Agrees

section OneKey

variable {now : Nat} {key : String} {live : Option Entry} {d : Dataset}
  (keys args : List String) (shown : d (Text.bytes key) = live.map Record.of)

include shown

/-! ### Locks -/

theorem agrees_acquire (token : String) {millis : Nat} (fits : LeaseFits now millis) :
    Agrees now key live d (.acquire key token (Time.ofMillis millis))
      (runBody .acquire now (key :: keys) (token :: Text.Decimal.ofNat millis :: args) d) := by
  rcases live with _ | e
  · exact .put (.ok (.number 1)) ⟨.text token, some (now + Time.ofMillis millis)⟩
      (by simp [runBody, Command.body, fits.set_eq, shown]) rfl rfl
  · exact .keep (.ok (.number 0)) (by simp [runBody, Command.body, fits.set_eq, shown])
      rfl rfl shown

theorem agrees_reenter (start : String) {millis : Nat} (fits : LeaseFits now millis) :
    Agrees now key live d (.reenter key start (Time.ofMillis millis))
      (runBody .reenter now (key :: keys) (start :: Text.Decimal.ofNat millis :: args) d) := by
  rcases live with _ | ⟨token | items | set, t⟩
  · exact .keep (.ok (.number 0)) (by simp [runBody, Command.body, Lua.get, shown]) rfl rfl shown
  · by_cases owns : startsWith token start
    · exact .put (.ok (.number 1)) ⟨.text token, some (now + Time.ofMillis millis)⟩
        (by simp [runBody, Command.body, Lua.get, shown, part_length, Text.bytes_isPrefix_iff, owns,
          fits.pexpire_eq shown])
        (if_pos owns) rfl
    · exact .keep (.ok (.number 0))
        (by simp [runBody, Command.body, Lua.get, shown, part_length, Text.bytes_isPrefix_iff,
          owns])
        (if_neg owns) rfl shown
  all_goals
    exact .refuse (by simp [runBody, Command.body, Lua.get, shown]) rfl shown

theorem agrees_renew (token : String) {millis : Nat} (fits : LeaseFits now millis) :
    Agrees now key live d (.renew key token (Time.ofMillis millis))
      (runBody .renew now (key :: keys) (token :: Text.Decimal.ofNat millis :: args) d) := by
  rcases live with _ | ⟨holder | items | set, t⟩
  · exact .keep (.ok (.number 0)) (by simp [runBody, Command.body, Lua.get, shown]) rfl rfl shown
  · by_cases owns : holder = token
    · exact .put (.ok (.number 1)) ⟨.text holder, some (now + Time.ofMillis millis)⟩
        (by simp [runBody, Command.body, Lua.get, shown, owns, fits.pexpire_eq shown])
        (if_pos (beq_iff_eq.2 owns)) rfl
    · exact .keep (.ok (.number 0))
        (by simp [runBody, Command.body, Lua.get, shown, owns, Text.bytes_inj])
        (if_neg (mt beq_iff_eq.1 owns)) rfl shown
  all_goals
    exact .refuse (by simp [runBody, Command.body, Lua.get, shown]) rfl shown

theorem agrees_release (token : String) :
    Agrees now key live d (.release key token)
      (runBody .release now (key :: keys) (token :: args) d) := by
  rcases live with _ | ⟨holder | items | set, t⟩
  · exact .keep (.ok (.number 0)) (by simp [runBody, Command.body, Lua.get, shown]) rfl rfl shown
  · by_cases owns : holder = token
    · exact .drop (.ok (.number 1))
        (by simp [runBody, Command.body, Lua.get, shown, owns, Lua.del, Dataset.delete])
        (if_pos owns) rfl
    · exact .keep (.ok (.number 0))
        (by simp [runBody, Command.body, Lua.get, shown, owns, Text.bytes_inj])
        (if_neg owns) rfl shown
  all_goals
    exact .refuse (by simp [runBody, Command.body, Lua.get, shown]) rfl shown

theorem agrees_owner :
    Agrees now key live d (.owner key) (runBody .owner now (key :: keys) args d) := by
  rcases live with _ | ⟨token | items | set, t⟩
  · exact .keep (.ok (.bool false)) (by simp [runBody, Command.body, Lua.get, shown]) rfl rfl shown
  · exact .keep (.ok (.text (Text.bytes token))) (by simp [runBody, Command.body, Lua.get, shown])
      rfl (answer?_text [key] token) shown
  all_goals
    exact .refuse (by simp [runBody, Command.body, Lua.get, shown]) rfl shown

/-! ### Lists -/

theorem agrees_push (payload : String) :
    Agrees now key live d (.push key payload)
      (runBody .push now (key :: keys) (payload :: args) d) := by
  rcases live with _ | ⟨token | items | set, t⟩
  · exact .put (.ok (.number 1)) ⟨.list [payload], none⟩
      (by simp [runBody, Command.body, Lua.rpush, shown, Dataset.store, Data.isEmptyCollection])
      rfl rfl
  · exact .refuse (by simp [runBody, Command.body, Lua.rpush, shown]) rfl shown
  · exact .put (.ok (.number (items ++ [payload]).length)) ⟨.list (items ++ [payload]), t⟩
      (by simp [runBody, Command.body, Lua.rpush, shown, Dataset.store, Data.isEmptyCollection])
      rfl rfl
  · exact .refuse (by simp [runBody, Command.body, Lua.rpush, shown]) rfl shown

theorem agrees_pop (sound : ∀ e ∈ live, Entry.Sound e) :
    Agrees now key live d (.pop key) (runBody .pop now (key :: keys) args d) := by
  rcases live with _ | ⟨token | items | set, t⟩
  · exact .keep (.ok (.bool false)) (by simp [runBody, Command.body, Lua.lpop, shown]) rfl rfl shown
  · exact .refuse (by simp [runBody, Command.body, Lua.lpop, shown]) rfl shown
  · cases items with
    | nil =>
      cases sound _ rfl with
      | list filled => exact absurd rfl filled
    | cons first rest =>
      exact .store (.ok (.text (Text.bytes first))) ⟨.list rest, t⟩
        (by simp [runBody, Command.body, Lua.lpop, shown]) rfl (answer?_text [key] first)
        (isEmptyCollection_list rest)
  · exact .refuse (by simp [runBody, Command.body, Lua.lpop, shown]) rfl shown

theorem agrees_len :
    Agrees now key live d (.len key) (runBody .len now (key :: keys) args d) := by
  rcases live with _ | ⟨token | items | set, t⟩
  · exact .keep (.ok (.number 0)) (by simp [runBody, Command.body, Lua.llen, shown]) rfl rfl shown
  · exact .refuse (by simp [runBody, Command.body, Lua.llen, shown]) rfl shown
  · exact .keep (.ok (.number items.length)) (by simp [runBody, Command.body, Lua.llen, shown])
      rfl rfl shown
  · exact .refuse (by simp [runBody, Command.body, Lua.llen, shown]) rfl shown

/-! ### Sorted sets -/

section Sorted

variable (sound : ∀ e ∈ live, Entry.Sound e)

include sound

theorem agrees_delayedPush (payload : String) {score : String} {n : Int}
    (read : Text.Decimal.readInt64? score = some n) (precise : isExact n) :
    Agrees now key live d (.delayedPush key payload n)
      (runBody .delayedPush now (key :: keys) (payload :: score :: args) d) := by
  have number := wholeNumber?_bytes read precise
  rcases live with _ | ⟨token | items | set, t⟩
  · have row := SortedSet.Agrees.empty.ranking_insert payload n
    rw [SortedSet.ranking_empty] at row
    exact .put (.ok (.number 1)) ⟨.sorted (SortedSet.insert {} payload n), none⟩
      (by simp [runBody, Command.body, Lua.zadd, number, shown, Dataset.store,
        Data.isEmptyCollection, isEmpty_ranked, row])
      rfl rfl
  · exact .refuse (by simp [runBody, Command.body, Lua.zadd, number, shown]) rfl shown
  · exact .refuse (by simp [runBody, Command.body, Lua.zadd, number, shown]) rfl shown
  · cases sound _ rfl with
    | sorted agrees filled =>
      refine .put (.ok (.number (if set.contains payload then 0 else 1)))
        ⟨.sorted (set.insert payload n), none⟩ ?_ rfl ?_
      · simp [runBody, Command.body, Lua.zadd, number, shown, Dataset.store,
          Data.isEmptyCollection, isEmpty_ranked, agrees.ranking_insert, agrees.hasMember_ranking]
      · cases set.contains payload <;> rfl

theorem agrees_delayedPop {limit : String} {n : Int}
    (read : Text.Decimal.readInt64? limit = some n) (precise : isExact n)
    (scores : ∀ set t, live = some ⟨.sorted set, t⟩ → ∀ slot, set.first? = some slot →
      isExact slot.score) :
    Agrees now key live d (.delayedPop key n)
      (runBody .delayedPop now (key :: keys) (limit :: args) d) := by
  have number := wholeNumber?_bytes read precise
  rcases live with _ | ⟨token | items | set, t⟩
  · exact .keep (.ok .nil) (by simp [runBody, Command.body, Lua.zfirst, digits, shown])
      rfl rfl shown
  · exact .refuse (by simp [runBody, Command.body, Lua.zfirst, shown]) rfl shown
  · exact .refuse (by simp [runBody, Command.body, Lua.zfirst, shown]) rfl shown
  · cases sound _ rfl with
    | sorted agrees filled =>
      have head := set.head?_ranking
      cases row : set.ranking with
      | nil =>
        rw [Ne, ← agrees.length_ranking, row] at filled
        exact absurd rfl filled
      | cons x rest =>
        rw [row, List.head?_cons] at head
        obtain ⟨slot, first, rfl⟩ := Option.map_eq_some_iff.1 head.symm
        have score := wholeNumber?_digits (scores set none rfl slot first)
        have row : set.ranking = ⟨slot.score, Text.bytes slot.payload⟩ :: rest := row
        have member : hasMember (Text.bytes slot.payload) set.ranking := by simp [row, hasMember]
        have filtered : set.first?.filter (fun slot => slot.score ≤ n) =
            if slot.score ≤ n then some slot else none := by
          simp [first, Option.filter_some]
        by_cases due : slot.score ≤ n
        · have early : ¬n < slot.score := Int.not_lt.2 due
          rw [if_pos due] at filtered
          rw [row] at member
          exact .store (.ok (.text (Text.bytes slot.payload)))
            ⟨.sorted (set.erase slot.payload), none⟩
            (by simp [runBody, Command.body, Lua.zfirst, Lua.zrem, shown, row, score, number, early,
              member, agrees.ranking_erase])
            (by simp [Action.effect, filtered]) (answer?_text [key] slot.payload)
            (isEmptyCollection_sorted (agrees.erase slot.payload))
        · have late : n < slot.score := Int.not_le.1 due
          rw [if_neg due] at filtered
          exact .stay (.ok .nil) ⟨.sorted set, none⟩ (beq_eq_false_iff_ne.2 filled)
            (by simp [runBody, Command.body, Lua.zfirst, shown, row, score, number, late])
            (by simp [Action.effect, filtered]) rfl shown

theorem agrees_delayedRemove (payload : String) :
    Agrees now key live d (.delayedRemove key payload)
      (runBody .delayedRemove now (key :: keys) (payload :: args) d) := by
  rcases live with _ | ⟨token | items | set, t⟩
  · exact .keep (.ok (.number 0)) (by simp [runBody, Command.body, Lua.zrem, shown]) rfl rfl shown
  · exact .refuse (by simp [runBody, Command.body, Lua.zrem, shown]) rfl shown
  · exact .refuse (by simp [runBody, Command.body, Lua.zrem, shown]) rfl shown
  · cases sound _ rfl with
    | sorted agrees filled =>
      have member := agrees.hasMember_ranking payload
      cases present : set.contains payload with
      | true =>
        rw [present] at member
        exact .store (.ok (.number 1)) ⟨.sorted (set.erase payload), none⟩
          (by simp [runBody, Command.body, Lua.zrem, shown, member, agrees.ranking_erase])
          (by rw [Action.effect, present]; rfl) rfl
          (isEmptyCollection_sorted (agrees.erase payload))
      | false =>
        rw [present] at member
        have same : set.erase payload = set := SortedSet.erase_of_not_contains present
        exact .stay (.ok (.number 0)) ⟨.sorted set, none⟩ (beq_eq_false_iff_ne.2 filled)
          (by simp [runBody, Command.body, Lua.zrem, shown, member])
          (by rw [Action.effect, present, same]; rfl) rfl shown

theorem agrees_delayedLen :
    Agrees now key live d (.delayedLen key)
      (runBody .delayedLen now (key :: keys) args d) := by
  rcases live with _ | ⟨token | items | set, t⟩
  · exact .keep (.ok (.number 0)) (by simp [runBody, Command.body, Lua.zcard, shown]) rfl rfl shown
  · exact .refuse (by simp [runBody, Command.body, Lua.zcard, shown]) rfl shown
  · exact .refuse (by simp [runBody, Command.body, Lua.zcard, shown]) rfl shown
  · cases sound _ rfl with
    | sorted agrees filled =>
      exact .keep (.ok (.number set.size))
        (by simp [runBody, Command.body, Lua.zcard, shown, agrees.length_ranking]) rfl rfl shown

end Sorted

end OneKey

end Lua

end Turnstile
