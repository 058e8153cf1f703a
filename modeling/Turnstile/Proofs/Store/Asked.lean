import Turnstile.Proofs.Except
import Turnstile.Store.Action

/-!
# What a request has to say

A request asks for an action if it goes by the name of the action's script, and says in its
keys and arguments what the action is about. `Action.ofRequest_eq_ok_iff` : this is the only way
to ask for an action, whichever it is.

For each kind of action it is spelled out below. The first key is that of the lock or the queue,
the first argument is the token or the payload, and a number is an argument that
`Text.Decimal.readInt64?` reads (`Request.int_eq_ok_iff`); further keys and arguments do not
matter, and a deletion takes all keys. So a law about the actions that requests ask for is one
about the requests themselves.
-/

namespace Turnstile

theorem Command.ofName?_eq_some_iff {n : String} {c : Command} :
    ofName? n = some c ↔ n = c.name := by
  constructor
  · exact fun found => (name_of_ofName? found).symm
  · rintro rfl
    exact ofName?_name c

namespace Request

variable {r : Request} {index : Nat}

theorem key_eq_ok_iff {key : String} : r.key index = .ok key ↔ r.keys[index]? = some key := by
  unfold Request.key
  cases r.keys[index]? <;> simp

theorem arg_eq_ok_iff {text : String} : r.arg index = .ok text ↔ r.args[index]? = some text := by
  unfold arg
  cases r.args[index]? <;> simp

theorem int_eq_ok_iff {n : Int} :
    r.int index = .ok n ↔
      ∃ raw, r.args[index]? = some raw ∧ Text.Decimal.readInt64? raw = some n := by
  simp only [int, bind_eq_ok_iff, arg_eq_ok_iff]
  refine exists_congr fun raw => and_congr_right fun _ => ?_
  cases Text.Decimal.readInt64? raw <;> simp

theorem lease_eq_ok_iff {lease : Nat} :
    r.lease index = .ok lease ↔
      ∃ n, r.int index = .ok n ∧ 0 < n ∧ Time.ofMillis n.toNat = lease := by
  simp only [Request.lease, bind_eq_ok_iff]
  refine exists_congr fun n => and_congr_right fun _ => ?_
  split
  · next empty => simp [Int.not_lt_of_ge empty]
  · next positive => simp [Int.lt_of_not_ge positive]

end Request

namespace Action

/-- The command that has an action done. -/
def command : Action → Command
  | acquire .. => .acquire
  | reenter .. => .reenter
  | renew .. => .renew
  | release .. => .release
  | owner _ => .owner
  | push .. => .push
  | pop _ => .pop
  | len _ => .len
  | delayedPush .. => .delayedPush
  | delayedPop .. => .delayedPop
  | delayedRemove .. => .delayedRemove
  | delayedLen _ => .delayedLen
  | destroy _ => .destroy

variable {r : Request} {a : Action} {c : Command}

/-- A command asks for its own actions only. -/
theorem command_of_ofCommand (asked : ofCommand r c = .ok a) : a.command = c := by
  cases c <;>
    simp only [ofCommand, bind_eq_ok_iff, pure_eq_ok_iff, Except.ok.injEq] at asked <;>
    first
      | (obtain rfl := asked; rfl)
      | (obtain ⟨_, -, rfl⟩ := asked; rfl)
      | (obtain ⟨_, -, _, -, rfl⟩ := asked; rfl)
      | (obtain ⟨_, -, _, -, _, -, rfl⟩ := asked; rfl)

/-- What a request asks for is told by the name of its script, and by its keys and arguments. -/
theorem ofRequest_eq_ok_iff :
    ofRequest r = .ok a ↔ r.script.name = a.command.name ∧ ofCommand r a.command = .ok a := by
  unfold ofRequest
  constructor
  · intro asked
    split at asked
    · next c found =>
      rw [command_of_ofCommand asked]
      exact ⟨Command.ofName?_eq_some_iff.1 found, asked⟩
    · cases asked
  · rintro ⟨name, asked⟩
    rw [Command.ofName?_eq_some_iff.2 name]
    exact asked

/-! ## Requests of locks -/

section Locks

variable {key token : String} {lease : Nat}

theorem ofRequest_eq_acquire_iff :
    ofRequest r = .ok (.acquire key token lease) ↔
      r.script.name = Command.acquire.name ∧ r.keys[0]? = some key ∧ r.args[0]? = some token ∧
        r.lease 1 = .ok lease := by
  rw [ofRequest_eq_ok_iff, command, ofCommand, read_three_eq_ok_iff Action.acquire.inj,
    Request.key_eq_ok_iff, Request.arg_eq_ok_iff]

theorem ofRequest_eq_reenter_iff {owner : String} :
    ofRequest r = .ok (.reenter key owner lease) ↔
      r.script.name = Command.reenter.name ∧ r.keys[0]? = some key ∧ r.args[0]? = some owner ∧
        r.lease 1 = .ok lease := by
  rw [ofRequest_eq_ok_iff, command, ofCommand, read_three_eq_ok_iff Action.reenter.inj,
    Request.key_eq_ok_iff, Request.arg_eq_ok_iff]

theorem ofRequest_eq_renew_iff :
    ofRequest r = .ok (.renew key token lease) ↔
      r.script.name = Command.renew.name ∧ r.keys[0]? = some key ∧ r.args[0]? = some token ∧
        r.lease 1 = .ok lease := by
  rw [ofRequest_eq_ok_iff, command, ofCommand, read_three_eq_ok_iff Action.renew.inj,
    Request.key_eq_ok_iff, Request.arg_eq_ok_iff]

theorem ofRequest_eq_release_iff :
    ofRequest r = .ok (.release key token) ↔
      r.script.name = Command.release.name ∧ r.keys[0]? = some key ∧ r.args[0]? = some token := by
  rw [ofRequest_eq_ok_iff, command, ofCommand, read_two_eq_ok_iff Action.release.inj,
    Request.key_eq_ok_iff, Request.arg_eq_ok_iff]

theorem ofRequest_eq_owner_iff :
    ofRequest r = .ok (.owner key) ↔
      r.script.name = Command.owner.name ∧ r.keys[0]? = some key := by
  rw [ofRequest_eq_ok_iff, command, ofCommand, read_one_eq_ok_iff Action.owner.inj,
    Request.key_eq_ok_iff]

end Locks

/-! ## Requests of queues -/

section Queues

variable {key p : String}

theorem ofRequest_eq_push_iff :
    ofRequest r = .ok (.push key p) ↔
      r.script.name = Command.push.name ∧ r.keys[0]? = some key ∧ r.args[0]? = some p := by
  rw [ofRequest_eq_ok_iff, command, ofCommand, read_two_eq_ok_iff Action.push.inj,
    Request.key_eq_ok_iff, Request.arg_eq_ok_iff]

theorem ofRequest_eq_pop_iff :
    ofRequest r = .ok (.pop key) ↔
      r.script.name = Command.pop.name ∧ r.keys[0]? = some key := by
  rw [ofRequest_eq_ok_iff, command, ofCommand, read_one_eq_ok_iff Action.pop.inj,
    Request.key_eq_ok_iff]

theorem ofRequest_eq_len_iff :
    ofRequest r = .ok (.len key) ↔
      r.script.name = Command.len.name ∧ r.keys[0]? = some key := by
  rw [ofRequest_eq_ok_iff, command, ofCommand, read_one_eq_ok_iff Action.len.inj,
    Request.key_eq_ok_iff]

theorem ofRequest_eq_delayedPush_iff {date : Int} :
    ofRequest r = .ok (.delayedPush key p date) ↔
      r.script.name = Command.delayedPush.name ∧ r.keys[0]? = some key ∧ r.args[0]? = some p ∧
        ∃ raw, r.args[1]? = some raw ∧ Text.Decimal.readInt64? raw = some date := by
  rw [ofRequest_eq_ok_iff, command, ofCommand, read_three_eq_ok_iff Action.delayedPush.inj,
    Request.key_eq_ok_iff, Request.arg_eq_ok_iff, Request.int_eq_ok_iff]

theorem ofRequest_eq_delayedPop_iff {limit : Int} :
    ofRequest r = .ok (.delayedPop key limit) ↔
      r.script.name = Command.delayedPop.name ∧ r.keys[0]? = some key ∧
        ∃ raw, r.args[0]? = some raw ∧ Text.Decimal.readInt64? raw = some limit := by
  rw [ofRequest_eq_ok_iff, command, ofCommand, read_two_eq_ok_iff Action.delayedPop.inj,
    Request.key_eq_ok_iff, Request.int_eq_ok_iff]

theorem ofRequest_eq_delayedRemove_iff :
    ofRequest r = .ok (.delayedRemove key p) ↔
      r.script.name = Command.delayedRemove.name ∧ r.keys[0]? = some key ∧
        r.args[0]? = some p := by
  rw [ofRequest_eq_ok_iff, command, ofCommand, read_two_eq_ok_iff Action.delayedRemove.inj,
    Request.key_eq_ok_iff, Request.arg_eq_ok_iff]

theorem ofRequest_eq_delayedLen_iff :
    ofRequest r = .ok (.delayedLen key) ↔
      r.script.name = Command.delayedLen.name ∧ r.keys[0]? = some key := by
  rw [ofRequest_eq_ok_iff, command, ofCommand, read_one_eq_ok_iff Action.delayedLen.inj,
    Request.key_eq_ok_iff]

theorem ofRequest_eq_destroy_iff {keys : List String} :
    ofRequest r = .ok (.destroy keys) ↔
      r.script.name = Command.destroy.name ∧ r.keys = keys := by
  simp [ofRequest_eq_ok_iff, command, ofCommand]

end Queues

end Action

end Turnstile
