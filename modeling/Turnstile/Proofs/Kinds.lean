import Turnstile.Proofs.Names
import Turnstile.Proofs.Store.Lifetime

/-!
# Kinds of keys

Every command but the deletion works on values of one kind, and so does every action that a
request asks for. It puts no value of another kind (`Action.kind?_of_put`), and is answered
with a reply where there is none (`Action.effect_of_kind`). So a key that is only worked on as
one of a kind holds nothing else, now and later (`Keyspace.Holds.access`), and while all the
keys that a request works on are such keys, it is not refused for what they hold
(`Keyspace.eval_ne_wrongType`).
-/

namespace Turnstile

/-- The kind of what a value is used for. -/
def Value.kind : Value → Kind
  | text _ => .lock
  | list _ => .list
  | sorted _ => .sorted

namespace Request

variable (r : Request) (index : Nat) (key : String)

theorem key_ne_wrongType : r.key index ≠ .error (.wrongType key) := by
  unfold Request.key
  split <;> rintro ⟨⟩

theorem arg_ne_wrongType : r.arg index ≠ .error (.wrongType key) := by
  unfold arg
  split <;> rintro ⟨⟩

theorem int_ne_wrongType : r.int index ≠ .error (.wrongType key) := by
  refine bind_ne_error (r.arg_ne_wrongType index key) fun raw => ?_
  split <;> rintro ⟨⟩

theorem lease_ne_wrongType : r.lease index ≠ .error (.wrongType key) := by
  refine bind_ne_error (r.int_ne_wrongType index key) fun n => ?_
  split <;> rintro ⟨⟩

end Request

namespace Action

/-- The kind of what an action works on. A deletion works on all kinds. -/
def kind? : Action → Option Kind
  | acquire .. | reenter .. | renew .. | release .. | owner _ => some .lock
  | push .. | pop _ | len _ => some .list
  | delayedPush .. | delayedPop .. | delayedRemove .. | delayedLen _ => some .sorted
  | destroy _ => none

variable {a : Action} {key : String} {now : Nat} {live : Option Entry} {e : Entry}

/-- An action works on the kind that its command works on. -/
theorem kind?_of_ofCommand {r : Request} {c : Command} (asked : ofCommand r c = .ok a) :
    a.kind? = c.kind? := by
  rw [← command_of_ofCommand asked]
  cases a <;> rfl

theorem kind_of_extension {owns : String → Bool} {expiry : Nat}
    (put : (extension owns key expiry live).2 = .put e) : e.value.kind = .lock := by
  unfold extension at put
  split at put
  · cases put
  · split at put <;> cases put
    rfl
  · cases put

/-- An action puts values of its kind. -/
theorem kind?_of_put (put : (a.effect now live).2 = .put e) : a.kind? = some e.value.kind := by
  cases a with
  | reenter => exact congrArg some (kind_of_extension put).symm
  | renew => exact congrArg some (kind_of_extension put).symm
  | destroy => cases put
  | acquire | owner | push | len | delayedPush | delayedLen =>
    rcases live with _ | ⟨_ | _ | _, _⟩ <;> cases put <;> rfl
  | release =>
    rcases live with _ | ⟨_ | _ | _, _⟩ <;> unfold effect at put <;> dsimp only at put
    · cases put
    · split at put <;> cases put
    · cases put
    · cases put
  | pop | delayedRemove =>
    rcases live with _ | ⟨_ | _ | _, _⟩
    all_goals first
      | cases put
      | cases Change.eq_of_store_eq_put put; rfl
  | delayedPop =>
    rcases live with _ | ⟨_ | _ | _, _⟩
    · cases put
    · cases put
    · cases put
    · unfold effect at put
      dsimp only at put
      split at put <;> cases Change.eq_of_store_eq_put put <;> rfl

/-- Where a key is absent or holds a value of its kind, an action is answered with a reply. -/
theorem effect_of_kind (now : Nat) (named : a.key? = some key)
    (fits : ∀ e ∈ live, a.kind? = some e.value.kind) :
    ∃ reply, (a.effect now live).1 = .ok reply := by
  rcases live with _ | ⟨value, t⟩
  · cases a <;> exact ⟨_, rfl⟩
  · have fits := fits _ rfl
    cases a with
    | destroy => cases named
    | acquire | owner | push | pop | len | delayedPush | delayedRemove | delayedLen =>
      cases value <;> first | exact ⟨_, rfl⟩ | cases fits
    | reenter | renew =>
      cases value with
      | text value =>
        unfold effect extension
        dsimp only
        split <;> exact ⟨_, rfl⟩
      | list | sorted => cases fits
    | release =>
      cases value with
      | text value =>
        unfold effect
        dsimp only
        split <;> exact ⟨_, rfl⟩
      | list | sorted => cases fits
    | delayedPop =>
      cases value with
      | text | list => cases fits
      | sorted set =>
        unfold effect
        dsimp only
        split <;> exact ⟨_, rfl⟩

/-- What is wrong with a request is told without a look at the store. -/
theorem ofRequest_ne_wrongType (r : Request) (key : String) :
    ofRequest r ≠ .error (.wrongType key) := by
  unfold ofRequest
  split
  · next c _ =>
    have atKey := r.key_ne_wrongType 0 key
    have atText := r.arg_ne_wrongType 0 key
    have done (a : Action) : (pure a : Except StoreError Action) ≠ .error (.wrongType key) := by
      rintro ⟨⟩
    cases c with
    | destroy => rintro ⟨⟩
    | owner | pop | len | delayedLen => exact bind_ne_error atKey fun _ => done _
    | release | push | delayedRemove =>
      exact bind_ne_error atKey fun _ => bind_ne_error atText fun _ => done _
    | delayedPop =>
      exact bind_ne_error atKey fun _ =>
        bind_ne_error (r.int_ne_wrongType 0 key) fun _ => done _
    | delayedPush =>
      exact bind_ne_error atKey fun _ => bind_ne_error atText fun _ =>
        bind_ne_error (r.int_ne_wrongType 1 key) fun _ => done _
    | acquire | reenter | renew =>
      exact bind_ne_error atKey fun _ => bind_ne_error atText fun _ =>
        bind_ne_error (r.lease_ne_wrongType 1 key) fun _ => done _
  · rintro ⟨⟩

end Action

/-- A request to work on a key asks for an action of its kind on this key. -/
theorem Kind.Requests.action {kind : Kind} {key : String} {r : Request} {a : Action}
    (requests : kind.Requests key r) (asked : Action.ofRequest r = .ok a) :
    a.kind? = some kind ∧ a.key? = some key := by
  obtain ⟨c, args, rfl, works⟩ := requests
  have worked : a.kind? = some kind := by
    rw [Action.ofRequest_request] at asked
    rw [Action.kind?_of_ofCommand asked, works]
  refine ⟨worked, ?_⟩
  cases named : a.key? with
  | some key' =>
    have own : key' ∈ a.keys := by simp [Action.keys_of_key? named]
    rw [List.mem_singleton.1 (Action.mem_keys_of_ofRequest asked own)]
  | none =>
    cases a with
    | destroy => cases worked
    | _ => cases named

/-- An access works on a key, if it does, as on one of a kind. -/
def Access.Suits (key : String) (kind : Kind) : Access → Prop
  | .eval r => ∀ a, Action.ofRequest r = .ok a → a.key? = some key → a.kind? = some kind
  | _ => True

namespace Keyspace

/-- A key holds nothing, or a value of a kind. -/
def Holds (k : Keyspace) (key : String) (kind : Kind) : Prop :=
  ∀ e, k.entries[key]? = some e → e.value.kind = kind

variable {k : Keyspace} {key : String} {kind : Kind}

theorem holds_empty (key : String) (kind : Kind) : Holds {} key kind := by
  intro e stored
  simp at stored

/-- A key that is worked on as one of its kind holds values of its kind. -/
theorem Holds.access (holds : k.Holds key kind) {x : Access} (suits : x.Suits key kind)
    (now : Nat) : (k.access now x).2.Holds key kind := by
  intro e stored
  cases x with
  | eval r =>
    rcases put_of_stored_eval stored with kept | ⟨a, asked, named, put⟩
    · exact holds e kept
    · have worked := suits a asked named
      rw [Action.kind?_of_put put] at worked
      exact Option.some.inj worked
  | contains | timeLeft => exact holds e (stored_touch stored)
  | clear => simp [Keyspace.access, clear] at stored

/-- A request that works on its key as on one of the kind that it holds is not refused for what
the key holds. -/
theorem eval_ne_wrongType {r : Request} (now : Nat)
    (fits : ∀ a key, Action.ofRequest r = .ok a → a.key? = some key →
      ∃ kind, a.kind? = some kind ∧ k.Holds key kind) (key : String) :
    (k.eval now r).1 ≠ .error (.wrongType key) := by
  cases asked : Action.ofRequest r with
  | error e =>
    rw [eval_of_error k now asked]
    intro same
    rw [Except.error.inj same] at asked
    exact Action.ofRequest_ne_wrongType r key asked
  | ok a =>
    cases named : a.key? with
    | some key' =>
      obtain ⟨kind, worked, holds⟩ := fits a key' asked named
      have suits : ∀ e ∈ k.live? now key', a.kind? = some e.value.kind := by
        intro e live
        rw [worked, holds e (Option.filter_eq_some_iff.1 live).1]
      obtain ⟨reply, answered⟩ := Action.effect_of_kind now named suits
      rw [fst_eval k now asked named, answered]
      rintro ⟨⟩
    | none =>
      cases a with
      | destroy keys =>
        rw [eval_of_ok k now asked]
        rintro ⟨⟩
      | _ => cases named

end Keyspace

end Turnstile
