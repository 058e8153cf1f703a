import Turnstile.Proofs.Lua.OneKey
import Turnstile.Proofs.Store.Lifetime

/-!
# The keyspace answers as a server does

A server runs the bodies of the scripts, and the keyspace performs actions in their place.
`Lua.eval_eq_runBody` : on whatever clients have made of the keyspace, a request of the kind
that they make is answered as the body answers on a server that has the same keys, and it
leaves the same keys with the same values and expiries.

For each body but one this comes from what it does to its key (`Lua.Agrees`). Deletions go
key by key on both sides (`Lua.delete_of`). Scores have to be whole numbers that a double
stands for, since a server keeps doubles, and they are if all that were put in are
(`Keyspace.HasExactScores`).
-/

namespace Turnstile

open Lua

/-! ## Scores that a double stands for -/

/-- Whether an access puts in no score but one that a double stands for. -/
def Access.putsExact : Access → Bool
  | eval r =>
    match Action.ofRequest r with
    | .ok (.delayedPush _ _ score) => isExact score
    | _ => true
  | _ => true

namespace Action

/-- A score that an action stores is put in by it, or was there before. -/
theorem Puts.score {a : Action} {now : Nat} {live : Option Entry} {set : SortedSet}
    {t : Option Nat} {payload : String} {score : Int} (puts : a.Puts now live ⟨.sorted set, t⟩)
    (found : set.score? payload = some score) :
    (∃ key, a = .delayedPush key payload score) ∨
      ∃ before t', live = some ⟨.sorted before, t'⟩ ∧ before.score? payload = some score := by
  cases puts with
  | scored held =>
    rw [SortedSet.score?_insert] at found
    split at found
    · next same =>
      obtain rfl := same
      obtain rfl := Option.some.inj found
      exact .inl ⟨_, rfl⟩
    · rcases held with ⟨rfl, -⟩ | held
      · cases found
      · exact .inr ⟨_, _, held, found⟩
  | erased held =>
    rw [SortedSet.score?_erase] at found
    split at found
    · cases found
    · exact .inr ⟨_, _, held, found⟩
  | kept held => exact .inr ⟨_, _, held, found⟩

end Action

namespace Keyspace

/-- Every score that is stored is one that a double stands for. -/
def HasExactScores (k : Keyspace) : Prop :=
  ∀ (key : String) (set : SortedSet) (t : Option Nat), k.entries[key]? = some ⟨.sorted set, t⟩ →
    ∀ payload score, set.score? payload = some score → isExact score

theorem HasExactScores.access {k : Keyspace} (h : k.HasExactScores) (now : Nat) {x : Access}
    (precise : x.putsExact) : (k.access now x).2.HasExactScores := by
  intro key set t stored payload score found
  cases x with
  | eval r =>
    rcases stored_eval stored with kept | ⟨a, asked, named, puts⟩
    · exact h key set t kept payload score found
    · rcases puts.score found with ⟨key, rfl⟩ | ⟨before, t', live, kept⟩
      · simpa [Access.putsExact, asked] using precise
      · exact h key before t' (Option.filter_eq_some_iff.1 live).1 payload score kept
  | contains other => exact h key set t (stored_touch stored) payload score found
  | timeLeft other => exact h key set t (stored_touch stored) payload score found
  | clear => simp [Keyspace.access, clear] at stored

theorem hasExactScores_replay (run : List (Nat × Access)) (precise : ∀ x ∈ run, x.2.putsExact) :
    (replay access run {}).2.HasExactScores := by
  induction run using List.reverseRecOn with
  | nil =>
    intro key set t stored
    simp [replay] at stored
  | append_singleton run x ih =>
    rw [replay_concat]
    exact (ih fun y mem => precise y (List.mem_append_left _ mem)).access x.1
      (precise x (by simp))

/-! ## What is live after an action -/

/-- What an action leaves or puts on a key is live. -/
theorem filter_effect {k : Keyspace} (sound : k.Sound) (now : Nat) {r : Request} {a : Action}
    (asked : Action.ofRequest r = .ok a) (key : String) :
    ((a.effect now (k.live? now key)).2.on (k.live? now key)).filter (fun e => !e.isExpired now) =
      (a.effect now (k.live? now key)).2.on (k.live? now key) := by
  have wellFormed := a.effect_sound now (sound.live now key)
  cases changed : (a.effect now (k.live? now key)).2 with
  | keep => exact (k.live?_later key (Nat.le_refl now)).symm
  | put e =>
    rw [changed] at wellFormed
    have fresh : e.isExpired now = false := by
      cases wellFormed with
      | text token expiry =>
        cases Action.puts_of_effect changed with
        | token asks =>
          have := Action.lease_pos asked asks
          simp only [Entry.isExpired, decide_eq_false_iff_not]
          omega
      | list => rfl
      | sorted => rfl
    simp [Option.filter_some, fresh]
  | drop => rfl

end Keyspace

namespace Lua

/-! ## Requests of clients -/

/-- The requests of the kind that clients make. A lease is a positive number of milliseconds
without needless signs and zeros; scores and dates are whole numbers that a double stands
for; a deletion names a key. More keys and arguments than a body reads do not matter. -/
inductive Shaped (now : Nat) : Command → List String → List String → Prop
  | acquire {key token : String} {keys args : List String} {millis : Nat}
    (lease : LeaseFits now millis) :
    Shaped now .acquire (key :: keys) (token :: Text.Decimal.ofNat millis :: args)
  | reenter {key start : String} {keys args : List String} {millis : Nat}
    (lease : LeaseFits now millis) :
    Shaped now .reenter (key :: keys) (start :: Text.Decimal.ofNat millis :: args)
  | renew {key token : String} {keys args : List String} {millis : Nat}
    (lease : LeaseFits now millis) :
    Shaped now .renew (key :: keys) (token :: Text.Decimal.ofNat millis :: args)
  | release {key token : String} {keys args : List String} :
    Shaped now .release (key :: keys) (token :: args)
  | owner {key : String} {keys args : List String} : Shaped now .owner (key :: keys) args
  | push {key payload : String} {keys args : List String} :
    Shaped now .push (key :: keys) (payload :: args)
  | pop {key : String} {keys args : List String} : Shaped now .pop (key :: keys) args
  | len {key : String} {keys args : List String} : Shaped now .len (key :: keys) args
  | delayedPush {key payload score : String} {keys args : List String} {n : Int}
    (read : Text.Decimal.readInt64? score = some n) (precise : isExact n) :
    Shaped now .delayedPush (key :: keys) (payload :: score :: args)
  | delayedPop {key date : String} {keys args : List String} {n : Int}
    (read : Text.Decimal.readInt64? date = some n) (precise : isExact n) :
    Shaped now .delayedPop (key :: keys) (date :: args)
  | delayedRemove {key payload : String} {keys args : List String} :
    Shaped now .delayedRemove (key :: keys) (payload :: args)
  | delayedLen {key : String} {keys args : List String} : Shaped now .delayedLen (key :: keys) args
  | destroy {key : String} {keys args : List String} : Shaped now .destroy (key :: keys) args

/-! ## Deletions -/

/-- Deletions go key by key on both sides. -/
theorem delete_of (now : Nat) (keys : List String) (k : Keyspace) :
    (Dataset.of k now).delete (keys.map Text.bytes) =
      ((Keyspace.destroy now keys k).1, Dataset.of (Keyspace.destroy now keys k).2 now) := by
  induction keys generalizing k with
  | nil => rfl
  | cons key keys ih =>
    have dropped : Dataset.of ((k.touch now key).delete key) now =
        Function.update (Dataset.of k now) (Text.bytes key) none := by
      have gone : ((k.touch now key).delete key).live? now key = none := by
        rw [Keyspace.live?_delete, if_pos rfl]
      refine Dataset.of_eq_update gone fun other apart => ?_
      rw [Keyspace.live?_delete, if_neg apart, Keyspace.live?_touch]
    have found : (k.touch now key).entries.contains key = (k.live? now key).isSome := by
      rw [← Keyspace.getElem?_touch_self, Std.TreeMap.contains_eq_isSome_getElem?]
    rw [List.map_cons, Dataset.delete, Dataset.of_bytes, Keyspace.destroy, found]
    cases live : k.live? now key with
    | none =>
      have same : Function.update (Dataset.of k now) (Text.bytes key) none = Dataset.of k now := by
        rw [Function.update_eq_self_iff, Dataset.of_bytes, live]
        rfl
      simp [← ih, dropped, same]
    | some e => simp [← dropped, ih]

/-! ## The agreement -/

/-- What a body ends with, against what an evaluation is answered and leaves. -/
def EndsAs (now : Nat) (keys : List String) (ended : Except Fault Value × Dataset)
    (native : Answer × Keyspace) : Prop :=
  answer? keys ended.1 = some native.1 ∧ ended.2 = Dataset.of native.2 now

theorem LeaseFits.read {now millis : Nat} (lease : LeaseFits now millis) {r : Request} {index : Nat}
    (arg : r.args[index]? = some (Text.Decimal.ofNat millis)) :
    r.lease index = .ok (Time.ofMillis millis) :=
  Request.lease_of_le arg lease.1 lease.le_max

section Asked

variable (keys args : List String) {number : String} {n : Int}
  (read : Text.Decimal.readInt64? number = some n)

include read

theorem asked_delayedPush (key payload : String) :
    Action.ofRequest (Command.delayedPush.request (key :: keys) (payload :: number :: args)) =
      .ok (.delayedPush key payload n) :=
  Action.ofRequest_eq_delayedPush_iff.2 ⟨rfl, rfl, rfl, number, rfl, read⟩

theorem asked_delayedPop (key : String) :
    Action.ofRequest (Command.delayedPop.request (key :: keys) (number :: args)) =
      .ok (.delayedPop key n) :=
  Action.ofRequest_eq_delayedPop_iff.2 ⟨rfl, rfl, number, rfl, read⟩

end Asked

section Evaluation

variable {k : Keyspace} (sound : k.Sound) {now : Nat} {r : Request}

include sound

/-- A body that does to a key what an action does ends as the evaluation of the action. -/
theorem Agrees.endsAs {a : Action} {key : String} {keys : List String}
    {ended : Except Fault Value × Dataset} (asked : Action.ofRequest r = .ok a)
    (named : a.key? = some key)
    (agrees : Agrees now key (k.live? now key) (Dataset.of k now) a ended) :
    EndsAs now (key :: keys) ended (k.eval now r) := by
  obtain ⟨same, after⟩ := agrees
  constructor
  · rw [Keyspace.fst_eval k now asked named, ← same]
    rcases ended.1 with (_ | _) | _ <;> rfl
  · rw [after]
    refine (Dataset.of_eq_update ?_ fun other apart => ?_).symm
    · rw [Keyspace.live?_eval k now asked named, if_pos rfl, Keyspace.filter_effect sound now asked]
    · rw [Keyspace.live?_eval k now asked named, if_neg apart]

omit sound in
theorem endsAs_destroy (key : String) (keys args : List String) :
    EndsAs now (key :: keys) (runBody .destroy now (key :: keys) args (Dataset.of k now))
      (k.eval now (Command.destroy.request (key :: keys) args)) := by
  have asked : Action.ofRequest (Command.destroy.request (key :: keys) args) =
      .ok (.destroy (key :: keys)) :=
    Action.ofRequest_eq_destroy_iff.2 ⟨rfl, rfl⟩
  have ticked : Dataset.of (k.tick now) now = Dataset.of k now :=
    Dataset.of_congr (k.live?_tick now)
  have deleted := delete_of now (key :: keys) (k.tick now)
  rw [ticked] at deleted
  have ended : runBody .destroy now (key :: keys) args (Dataset.of k now) =
      Lua.del ((key :: keys).map Text.bytes) (Dataset.of k now) := by
    simp [runBody, Command.body]
  rw [ended, Lua.del, deleted, Keyspace.eval_of_ok k now asked]
  exact ⟨rfl, rfl⟩

end Evaluation

/-- The keyspace answers as a server does. Take any keyspace that accesses have made of the
empty one, where all scores that were put in are whole numbers that a double stands for, and
any request of the kind that clients make. On a server with just the keys that are live there,
the body of the request's script ends with the same answer, an error exactly where the keyspace
refuses a wrong type, and it leaves just the keys that are live after the evaluation, with
their values and expiries. -/
theorem eval_eq_runBody (run : List (Nat × Access)) (precise : ∀ x ∈ run, x.2.putsExact) (now : Nat)
    {c : Command} {keys args : List String} (shaped : Shaped now c keys args) :
    let k := (replay Keyspace.access run {}).2
    let native := k.eval now (c.request keys args)
    let ended := runBody c now keys args (Dataset.of k now)
    c.body.source = c.script.body ∧
      answer? keys ended.1 = some native.1 ∧ ended.2 = Dataset.of native.2 now := by
  have sound := Keyspace.Sound.empty.replay run
  have scores := Keyspace.hasExactScores_replay run precise
  refine ⟨c.source_body, ?_⟩
  generalize (replay Keyspace.access run {}).2 = k at sound scores
  have live (key : String) := sound.live now key
  have shown (key : String) := Dataset.of_bytes k now key
  change EndsAs now keys _ _
  cases shaped with
  | acquire lease =>
    exact (agrees_acquire _ _ (shown _) _ lease).endsAs sound
      (Action.ofRequest_eq_acquire_iff.2 ⟨rfl, rfl, rfl, lease.read rfl⟩) rfl
  | reenter lease =>
    exact (agrees_reenter _ _ (shown _) _ lease).endsAs sound
      (Action.ofRequest_eq_reenter_iff.2 ⟨rfl, rfl, rfl, lease.read rfl⟩) rfl
  | renew lease =>
    exact (agrees_renew _ _ (shown _) _ lease).endsAs sound
      (Action.ofRequest_eq_renew_iff.2 ⟨rfl, rfl, rfl, lease.read rfl⟩) rfl
  | release =>
    exact (agrees_release _ _ (shown _) _).endsAs sound
      (Action.ofRequest_eq_release_iff.2 ⟨rfl, rfl, rfl⟩) rfl
  | owner =>
    exact (agrees_owner _ _ (shown _)).endsAs sound
      (Action.ofRequest_eq_owner_iff.2 ⟨rfl, rfl⟩) rfl
  | push =>
    exact (agrees_push _ _ (shown _) _).endsAs sound
      (Action.ofRequest_eq_push_iff.2 ⟨rfl, rfl, rfl⟩) rfl
  | pop =>
    exact (agrees_pop _ _ (shown _) (live _)).endsAs sound
      (Action.ofRequest_eq_pop_iff.2 ⟨rfl, rfl⟩) rfl
  | len =>
    exact (agrees_len _ _ (shown _)).endsAs sound (Action.ofRequest_eq_len_iff.2 ⟨rfl, rfl⟩) rfl
  | delayedPush read precise =>
    exact (agrees_delayedPush _ _ (shown _) (live _) _ read precise).endsAs sound
      (asked_delayedPush _ _ read _ _) rfl
  | @delayedPop key date keys args n read precise =>
    refine (agrees_delayedPop _ _ (shown key) (live key) read precise ?_).endsAs sound
      (asked_delayedPop _ _ read _) rfl
    intro set t held slot first
    have agrees : set.Agrees := by
      cases live key _ held with
      | sorted agrees => exact agrees
    have stored := (Option.filter_eq_some_iff.1 held).1
    exact scores key set t stored _ _ (agrees.first?_eq_some.1 first).1
  | delayedRemove =>
    exact (agrees_delayedRemove _ _ (shown _) (live _) _).endsAs sound
      (Action.ofRequest_eq_delayedRemove_iff.2 ⟨rfl, rfl, rfl⟩) rfl
  | delayedLen =>
    exact (agrees_delayedLen _ _ (shown _) (live _)).endsAs sound
      (Action.ofRequest_eq_delayedLen_iff.2 ⟨rfl, rfl⟩) rfl
  | destroy => exact endsAs_destroy _ _ _

/-- Two payloads of one date, behind a lock whose lease is over. -/
def tied : List (Nat × Access) :=
  [(0, .eval (Command.acquire.request ["q"] ["h:1.1:1", "30"])),
    (Time.ofMillis 30, .eval (Command.delayedPush.request ["q"] ["b", "5"])),
    (Time.ofMillis 31, .eval (Command.delayedPush.request ["q"] ["a", "5"]))]

theorem eval_eq_runBody_tied :
    (∀ x ∈ tied, x.2.putsExact) ∧ Shaped (Time.ofMillis 40) .delayedPop ["q"] ["6"] ∧
      answer? ["q"]
        (runBody .delayedPop (Time.ofMillis 40) ["q"] ["6"]
          (Dataset.of (replay Keyspace.access tied {}).2 (Time.ofMillis 40))).1 =
        some (.ok (.text "a")) := by
  have precise : ∀ x ∈ tied, x.2.putsExact := by decide
  have read : Text.Decimal.readInt64? "6" = some 6 := by rfl
  have shaped : Shaped (Time.ofMillis 40) .delayedPop ["q"] ["6"] := .delayedPop read (by decide)
  -- the lock is gone, and of the two payloads the one with the smaller bytes comes first
  have queued : (replay Keyspace.access tied {}).2.live? (Time.ofMillis 40) "q" =
      some ⟨.sorted ((SortedSet.insert {} "b" 5).insert "a" 5), none⟩ := rfl
  have first : ((SortedSet.insert {} "b" 5).insert "a" 5).first? = some ⟨5, "a"⟩ := by cbv
  refine ⟨precise, shaped, (eval_eq_runBody tied precise _ shaped).2.1.trans ?_⟩
  rw [Keyspace.fst_eval _ _ (asked_delayedPop [] [] read "q") rfl, queued, Action.effect, first]
  rfl

end Lua

end Turnstile
