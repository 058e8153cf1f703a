import Mathlib.Data.List.DropRight
import Mathlib.Logic.Function.Basic
import Turnstile.Proofs.Store.Sound

/-!
# The history of a delayed queue

What waits in a delayed queue is a map from payloads to dates. `Waiting.Step` says what one
evaluation is answered and makes of that map, with one case for each script on the queue,
and `Waiting.Law` closes it under histories from the empty map. `delayed_history` : the
history of every run of evaluations, by whichever clients and at whatever points of time,
obeys the law with what the store has under the key.

The rest follows from the law. Since a queue was last destroyed, each payload has been put
in as often as it was delivered or removed, and once more if it still waits
(`Waiting.Law.balance`).

Which requests the cases of the law are about is told by the name of the script, the keys and
the arguments (`Action.ofRequest_eq_delayedPush_iff` and the lemmas beside it), and so is which
of them put a payload in, deliver it or remove it (`Waiting.deed?_eq_some_iff`).
-/

namespace Turnstile

/-- What waits in a delayed queue : payloads with the dates from which on they are ready. -/
abbrev Waiting := String → Option Int

/-- Whether an action works on the delayed queue of a key. -/
def Action.OnDelayed (key : String) : Action → Prop
  | delayedPush key' .. | delayedPop key' _ | delayedRemove key' _ | delayedLen key' => key' = key
  | destroy keys => key ∈ keys
  | _ => False

theorem Action.mem_keys_of_onDelayed {a : Action} {key : String} (h : a.OnDelayed key) :
    key ∈ a.keys := by
  cases a with
  | delayedPush | delayedPop | delayedRemove | delayedLen =>
    obtain rfl := h
    exact List.mem_singleton_self _
  | destroy => exact h
  | _ => exact h.elim

namespace Waiting

/-- Nothing waits. -/
def empty : Waiting := fun _ => none

/-- What waits in an entry. -/
def ofEntry : Option Entry → Waiting
  | some ⟨.sorted set, _⟩ => set.score?
  | _ => empty

/-- What a request on the delayed queue of a key is answered, and what waits after it, where
`w` is what waits before. -/
inductive Step (key : String) (w : Waiting) (r : Request) : Answer → Waiting → Prop
  /-- A payload is put in, or gets another date. -/
  | put {p : String} {date : Int} (asked : Action.ofRequest r = .ok (.delayedPush key p date)) :
    Step key w r (.ok (.ofBool (w p).isNone)) (Function.update w p (some date))
  /-- The least of what waits is delivered, if it is ready. -/
  | deliver {limit date : Int} {p : String}
    (asked : Action.ofRequest r = .ok (.delayedPop key limit))
    (waits : w p = some date) (ready : date ≤ limit)
    (least : ∀ p' date', w p' = some date' →
      date < date' ∨ date = date' ∧ Text.bytes p ≤ Text.bytes p') :
    Step key w r (.ok (.text p)) (Function.update w p none)
  /-- Nothing is delivered, as nothing is ready. -/
  | wait {limit : Int} (asked : Action.ofRequest r = .ok (.delayedPop key limit))
    (early : ∀ p date, w p = some date → limit < date) : Step key w r (.ok .nil) w
  | remove {p : String} (asked : Action.ofRequest r = .ok (.delayedRemove key p)) :
    Step key w r (.ok (.ofBool (w p).isSome)) (Function.update w p none)
  | count {payloads : Finset String} (asked : Action.ofRequest r = .ok (.delayedLen key))
    (mem : ∀ p, p ∈ payloads ↔ (w p).isSome) : Step key w r (.ok (.int payloads.card)) w
  | destroy {keys : List String} {answer : Answer}
    (asked : Action.ofRequest r = .ok (.destroy keys)) (named : key ∈ keys) :
    Step key w r answer empty
  /-- The key holds something else, so nothing waits there. -/
  | refuse {a : Action} {e : StoreError} (asked : Action.ofRequest r = .ok a)
    (none : w = empty) : Step key w r (.error e) w
  /-- The request is malformed or not about the queue. -/
  | leave {answer : Answer} (asked : ∀ a, Action.ofRequest r = .ok a → ¬a.OnDelayed key) :
    Step key w r answer w

/-- A history of requests with their answers, from the empty queue of a key to one in which
`w` waits. -/
inductive Law (key : String) : List (Request × Answer) → Waiting → Prop
  | nil : Law key [] empty
  | snoc {history : List (Request × Answer)} {w w' : Waiting} {r : Request} {answer : Answer}
    (before : Law key history w) (step : Step key w r answer w') :
    Law key (history ++ [(r, answer)]) w'

/-! ## What an action does to an entry -/

theorem ofEntry_filter {e : Option Entry} (sound : ∀ e' ∈ e, Entry.Sound e') (now : Nat) :
    ofEntry (e.filter fun e => !e.isExpired now) = ofEntry e :=
  view_filter (fun _ _ => rfl) sound now

/-- A sorted set that has become empty leaves nothing waiting, as does its absence. -/
theorem ofEntry_store (set : SortedSet) (t : Option Nat) (live : Option Entry) :
    ofEntry ((Change.store ⟨.sorted set, t⟩).on live) = set.score? := by
  unfold Change.store
  split
  · next drained =>
    have absent : ∀ p, set.score? p = none := by
      rw [← SortedSet.size_eq_zero]
      simpa [Value.isEmptyCollection] using drained
    funext p
    exact (absent p).symm
  · rfl

/-- An action on another kind of value leaves what waits. -/
theorem ofEntry_effect {key : String} {a : Action} (now : Nat) (live : Option Entry)
    (named : a.key? = some key) (other : ¬a.OnDelayed key) :
    ofEntry ((a.effect now live).2.on live) = ofEntry live := by
  cases a with
  | acquire | reenter | renew | release | owner =>
    exact view_effect (fun _ _ => rfl) (by trivial) now live
  | destroy => cases named
  | delayedPush | delayedPop | delayedRemove | delayedLen =>
    exact absurd (Option.some.inj named) other
  | push | len => rcases live with _ | ⟨_ | _ | _, _⟩ <;> rfl
  | pop =>
    rcases live with _ | ⟨_ | _ | _, _⟩
    · rfl
    · rfl
    · unfold Action.effect Change.store
      dsimp only
      split <;> rfl
    · rfl

theorem score?_insert_eq (set : SortedSet) (p : String) (date : Int) :
    (set.insert p date).score? = Function.update set.score? p (some date) := by
  funext other
  rw [SortedSet.score?_insert, Function.update_apply]
  simp [eq_comm]

theorem score?_erase_eq (set : SortedSet) (p : String) :
    (set.erase p).score? = Function.update set.score? p none := by
  funext other
  rw [SortedSet.score?_erase, Function.update_apply]
  simp [eq_comm]

section Effect

variable {key : String} {r : Request} {a : Action}

/-- An action on the delayed queue where the key is absent. -/
theorem Step.of_absent (now : Nat) (asked : Action.ofRequest r = .ok a)
    (named : a.key? = some key) (about : a.OnDelayed key) :
    Step key empty r (a.effect now none).1 (ofEntry ((a.effect now none).2.on none)) := by
  cases a with
  | delayedPush _ p date =>
    obtain rfl := Option.some.inj named
    have put : Step _ empty r _ _ := .put asked
    convert put using 1
    · rfl
    · exact score?_insert_eq {} p date
  | delayedPop _ limit =>
    obtain rfl := Option.some.inj named
    exact .wait asked fun p date waits => by cases waits
  | delayedRemove _ p =>
    obtain rfl := Option.some.inj named
    have remove : Step _ empty r _ _ := .remove asked
    convert remove using 1
    · rfl
    · exact (Function.update_eq_self p empty).symm
  | delayedLen =>
    obtain rfl := Option.some.inj named
    have none (p : String) : p ∈ (∅ : Finset String) ↔ (empty p).isSome := by simp [empty]
    exact .count asked none
  | destroy => cases named
  | _ => exact about.elim

/-- An action on the delayed queue where the key holds a sorted set. -/
theorem Step.of_sorted (now : Nat) {set : SortedSet} (t : Option Nat) (agrees : set.Agrees)
    (asked : Action.ofRequest r = .ok a) (named : a.key? = some key) (about : a.OnDelayed key) :
    Step key set.score? r (a.effect now (some ⟨.sorted set, t⟩)).1
      (ofEntry ((a.effect now (some ⟨.sorted set, t⟩)).2.on (some ⟨.sorted set, t⟩))) := by
  cases a with
  | delayedPush _ p date =>
    obtain rfl := Option.some.inj named
    have put : Step _ set.score? r _ _ := .put asked
    convert put using 1
    · unfold Action.effect SortedSet.contains
      simp
    · exact score?_insert_eq set p date
  | delayedPop _ limit =>
    obtain rfl := Option.some.inj named
    unfold Action.effect
    dsimp only
    split
    · next slot found =>
      obtain ⟨first, ready⟩ := Option.filter_eq_some_iff.1 found
      obtain ⟨waits, least⟩ := agrees.first?_eq_some.1 first
      rw [ofEntry_store, score?_erase_eq]
      exact .deliver asked waits (by simpa using ready) least
    · next unready =>
      rw [ofEntry_store]
      refine .wait asked fun p date waits => ?_
      cases first : set.first? with
      | none =>
        rw [agrees.first?_eq_none.1 first p] at waits
        cases waits
      | some slot =>
        have late : limit < slot.score := by
          rw [first, Option.filter_some] at unready
          simpa using unready
        rcases (agrees.first?_eq_some.1 first).2 p date waits with before | ⟨same, -⟩
        · exact late.trans before
        · exact same ▸ late
  | delayedRemove _ p =>
    obtain rfl := Option.some.inj named
    unfold Action.effect
    dsimp only
    rw [ofEntry_store, score?_erase_eq]
    exact .remove asked
  | delayedLen =>
    obtain rfl := Option.some.inj named
    obtain ⟨payloads, mem, card⟩ := set.exists_card_eq_size
    unfold Action.effect
    dsimp only
    rw [← card]
    exact .count asked mem
  | destroy => cases named
  | _ => exact about.elim

/-- An action on the delayed queue where the key holds something else. -/
theorem Step.of_other (now : Nat) {e : Entry} (other : ∀ set, e.value ≠ .sorted set)
    (asked : Action.ofRequest r = .ok a) (named : a.key? = some key) (about : a.OnDelayed key) :
    Step key empty r (a.effect now (some e)).1
      (ofEntry ((a.effect now (some e)).2.on (some e))) := by
  have nothing : ofEntry (some e) = empty := by
    obtain ⟨_ | _ | set, _⟩ := e
    · rfl
    · rfl
    · exact absurd rfl (other set)
  have refused : a.effect now (some e) = (.error (.wrongType key), .keep) := by
    obtain ⟨_ | _ | set, t⟩ := e
    · cases a <;> first | exact about.elim | cases named
      all_goals rfl
    · cases a <;> first | exact about.elim | cases named
      all_goals rfl
    · exact absurd rfl (other set)
  rw [refused, Change.on_keep, nothing]
  exact .refuse asked rfl

/-- An action on the delayed queue is a step of what waits. -/
theorem Step.of_effect (now : Nat) {live : Option Entry} (sound : ∀ e ∈ live, Entry.Sound e)
    (asked : Action.ofRequest r = .ok a) (named : a.key? = some key) (about : a.OnDelayed key) :
    Step key (ofEntry live) r (a.effect now live).1 (ofEntry ((a.effect now live).2.on live)) := by
  rcases live with _ | e
  · exact .of_absent now asked named about
  · have kept := sound e rfl
    cases kept with
    | sorted agrees => exact .of_sorted now none agrees asked named about
    | text | list => exact .of_other now (by simp) asked named about

end Effect

end Waiting

/-! ## Evaluations -/

namespace Keyspace

/-- What waits in the delayed queue of a key. -/
def waiting (k : Keyspace) (key : String) : Waiting := Waiting.ofEntry k.entries[key]?

/-- What waits never expires : it is live at every point of time. -/
theorem Sound.waiting_eq {k : Keyspace} (h : k.Sound) (now : Nat) (key : String) :
    k.waiting key = Waiting.ofEntry (k.live? now key) :=
  (Waiting.ofEntry_filter (h key) now).symm

/-- An evaluation is a step of what waits under any key. -/
theorem Sound.step_waiting {k : Keyspace} (h : k.Sound) (now : Nat) (r : Request) (key : String) :
    Waiting.Step key (k.waiting key) r (k.eval now r).1 ((k.eval now r).2.waiting key) := by
  rw [h.waiting_eq now, (h.eval now r).waiting_eq now]
  rcases k.eval_cases now r key with
    ⟨a, asked, named, answered, shown⟩ | ⟨keys, asked, mem, shown⟩ | ⟨other, shown⟩
  · have live := h.live now key
    rw [shown, answered, Waiting.ofEntry_filter ((a.effect_sound now live).on live)]
    by_cases about : a.OnDelayed key
    · exact .of_effect now live asked named about
    · rw [Waiting.ofEntry_effect now _ named about]
      refine .leave fun a' asked' => ?_
      obtain rfl := Except.ok.inj (asked.symm.trans asked')
      exact about
  · rw [shown]
    exact .destroy asked mem
  · rw [shown]
    exact .leave fun a asked about => other a asked (Action.mem_keys_of_onDelayed about)

/-- Runs a request at a point of time, and writes it down with its answer. -/
def serve (s : List (Request × Answer) × Keyspace) (x : Nat × Request) :
    List (Request × Answer) × Keyspace :=
  let (answer, k) := s.2.eval x.1 x.2
  (s.1 ++ [(x.2, answer)], k)

/-- The history of a run from the empty keyspace, and the keyspace after it. -/
def history (run : List (Nat × Request)) : List (Request × Answer) × Keyspace :=
  run.foldl serve ([], {})

theorem law_foldl_serve (key : String) (run : List (Nat × Request)) :
    ∀ {past : List (Request × Answer)} {k : Keyspace}, k.Sound →
      Waiting.Law key past (k.waiting key) →
      (run.foldl serve (past, k)).2.Sound ∧
        Waiting.Law key (run.foldl serve (past, k)).1
          ((run.foldl serve (past, k)).2.waiting key) := by
  induction run with
  | nil => exact fun sound law => ⟨sound, law⟩
  | cons x run ih =>
    intro past k sound law
    exact ih (sound.eval x.1 x.2) (.snoc law (sound.step_waiting x.1 x.2 key))

end Keyspace

/-! ## What becomes of a payload -/

namespace Waiting

/-- What a request can do to a payload. -/
inductive Deed where
  | inserted
  | delivered
  | removed
deriving DecidableEq, Repr

/-- What a request with its answer did to a payload in the delayed queue of a key. -/
def deed? (key payload : String) (x : Request × Answer) : Option Deed :=
  match Action.ofRequest x.1, x.2 with
  | .ok (.delayedPush key' payload' _), .ok reply =>
    if key' = key ∧ payload' = payload ∧ reply.isYes then some .inserted else none
  | .ok (.delayedPop key' _), .ok reply =>
    if key' = key ∧ reply = .text payload then some .delivered else none
  | .ok (.delayedRemove key' payload'), .ok reply =>
    if key' = key ∧ payload' = payload ∧ reply.isYes then some .removed else none
  | _, _ => none

/-- Whether a request deleted a key. -/
def destroys (key : String) (x : Request × Answer) : Bool :=
  match Action.ofRequest x.1 with
  | .ok (.destroy keys) => key ∈ keys
  | _ => false

/-- A history since a key was last destroyed. -/
def sinceDestroyed (key : String) (history : List (Request × Answer)) : List (Request × Answer) :=
  history.rtakeWhile fun x => !destroys key x

/-- How often a deed was done to a payload. -/
def times (d : Deed) (key payload : String) (history : List (Request × Answer)) : Nat :=
  history.countP fun x => deed? key payload x = some d

theorem times_singleton (d : Deed) (key payload : String) (x : Request × Answer) :
    times d key payload [x] = if deed? key payload x = some d then 1 else 0 := by
  simp [times, List.countP_singleton]

/-- What a request says, and what it is answered, when it does something to a payload in the
delayed queue of a key. -/
def Deed.Told (key payload : String) (r : Request) (reply : Reply) : Deed → Prop
  | inserted =>
    reply.isYes ∧ r.script.name = Command.delayedPush.name ∧ r.keys[0]? = some key ∧
      r.args[0]? = some payload ∧
        ∃ date raw, r.args[1]? = some raw ∧ Text.Decimal.readInt64? raw = some date
  | delivered =>
    reply = .text payload ∧ r.script.name = Command.delayedPop.name ∧ r.keys[0]? = some key ∧
      ∃ limit raw, r.args[0]? = some raw ∧ Text.Decimal.readInt64? raw = some limit
  | removed =>
    reply.isYes ∧ r.script.name = Command.delayedRemove.name ∧ r.keys[0]? = some key ∧
      r.args[0]? = some payload

section Told

variable {key payload : String} {r : Request} {answer : Answer}

theorem deed?_eq_some_iff {d : Deed} :
    deed? key payload (r, answer) = some d ↔
      ∃ reply, answer = .ok reply ∧ d.Told key payload r reply := by
  unfold deed?
  dsimp only
  constructor
  · intro done
    split at done
    · next key' payload' date reply asked =>
      obtain ⟨⟨rfl, rfl, yes⟩, rfl⟩ : (key' = key ∧ payload' = payload ∧ reply.isYes) ∧
          Deed.inserted = d := by simpa using done
      obtain ⟨name, named, item, read⟩ := Action.ofRequest_eq_delayedPush_iff.1 asked
      exact ⟨reply, rfl, yes, name, named, item, date, read⟩
    · next key' limit reply asked =>
      obtain ⟨⟨rfl, rfl⟩, rfl⟩ : (key' = key ∧ reply = .text payload) ∧ Deed.delivered = d := by
        simpa using done
      obtain ⟨name, named, read⟩ := Action.ofRequest_eq_delayedPop_iff.1 asked
      exact ⟨_, rfl, rfl, name, named, limit, read⟩
    · next key' payload' reply asked =>
      obtain ⟨⟨rfl, rfl, yes⟩, rfl⟩ : (key' = key ∧ payload' = payload ∧ reply.isYes) ∧
          Deed.removed = d := by simpa using done
      exact ⟨reply, rfl, yes, Action.ofRequest_eq_delayedRemove_iff.1 asked⟩
    · cases done
  · rintro ⟨reply, rfl, told⟩
    cases d with
    | inserted =>
      obtain ⟨yes, name, named, item, date, read⟩ := told
      simp [Action.ofRequest_eq_delayedPush_iff.2 ⟨name, named, item, read⟩, yes]
    | delivered =>
      obtain ⟨rfl, name, named, limit, read⟩ := told
      simp [Action.ofRequest_eq_delayedPop_iff.2 ⟨name, named, read⟩]
    | removed =>
      obtain ⟨yes, asked⟩ := told
      simp [Action.ofRequest_eq_delayedRemove_iff.2 asked, yes]

theorem destroys_iff :
    destroys key (r, answer) ↔ r.script.name = Command.destroy.name ∧ key ∈ r.keys := by
  unfold destroys
  dsimp only
  constructor
  · intro gone
    split at gone
    · next keys asked =>
      obtain ⟨name, rfl⟩ := Action.ofRequest_eq_destroy_iff.1 asked
      exact ⟨name, of_decide_eq_true gone⟩
    · cases gone
  · rintro ⟨name, named⟩
    simpa [Action.ofRequest_eq_destroy_iff.2 ⟨name, rfl⟩] using named

theorem deed?_error (key payload : String) (r : Request) (e : StoreError) :
    deed? key payload (r, .error e) = none := by
  refine Option.eq_none_iff_forall_ne_some.2 fun d done => ?_
  obtain ⟨_, ⟨⟩, -⟩ := deed?_eq_some_iff.1 done

theorem deed?_of_not_onDelayed (other : ∀ a, Action.ofRequest r = .ok a → ¬a.OnDelayed key)
    (payload : String) (answer : Answer) : deed? key payload (r, answer) = none := by
  refine Option.eq_none_iff_forall_ne_some.2 fun d done => ?_
  obtain ⟨reply, -, told⟩ := deed?_eq_some_iff.1 done
  cases d with
  | inserted =>
    obtain ⟨-, name, named, item, date, read⟩ := told
    exact other _ (Action.ofRequest_eq_delayedPush_iff.2 ⟨name, named, item, read⟩) rfl
  | delivered =>
    obtain ⟨-, name, named, limit, read⟩ := told
    exact other _ (Action.ofRequest_eq_delayedPop_iff.2 ⟨name, named, read⟩) rfl
  | removed => exact other _ (Action.ofRequest_eq_delayedRemove_iff.2 told.2) rfl

end Told

/-- One request accounts for the change of a payload, unless it deletes the key. -/
theorem Step.balance {key : String} {w w' : Waiting} {r : Request} {answer : Answer}
    (step : Step key w r answer w') (payload : String) (kept : destroys key (r, answer) = false) :
    (w payload).isSome.toNat + times .inserted key payload [(r, answer)] =
      times .delivered key payload [(r, answer)] + times .removed key payload [(r, answer)] +
        (w' payload).isSome.toNat := by
  simp only [times_singleton]
  cases step with
  | @put p date asked =>
    by_cases same : p = payload
    · subst same
      cases w p <;> simp [deed?, asked]
    · simp [deed?, asked, same, Function.update_of_ne (Ne.symm same)]
  | @deliver limit date p asked waits ready least =>
    by_cases same : p = payload
    · subst same
      simp [deed?, asked, waits]
    · simp [deed?, asked, same, Function.update_of_ne (Ne.symm same)]
  | wait asked early => simp [deed?, asked]
  | @remove p asked =>
    by_cases same : p = payload
    · subst same
      cases w p <;> simp [deed?, asked]
    · simp [deed?, asked, same, Function.update_of_ne (Ne.symm same)]
  | count asked mem => simp [deed?, asked]
  | destroy asked named => simp [destroys, asked, named] at kept
  | refuse asked none => simp [deed?_error]
  | leave asked => simp [deed?_of_not_onDelayed asked]

theorem Step.empty_of_destroys {key : String} {w w' : Waiting} {r : Request} {answer : Answer}
    (step : Step key w r answer w') (gone : destroys key (r, answer) = true) : w' = empty := by
  obtain ⟨name, named⟩ := destroys_iff.1 gone
  have destroyed := Action.ofRequest_eq_destroy_iff.2 ⟨name, rfl⟩
  cases step with
  | destroy => rfl
  | refuse _ none => exact none
  | leave other => exact absurd named (other _ destroyed)
  | put asked | deliver asked | wait asked | remove asked | count asked =>
    cases destroyed.symm.trans asked

/-- Since a queue was last destroyed, each payload was put in as often as it was delivered or
removed, and once more if it waits. -/
theorem Law.balance {key : String} {history : List (Request × Answer)} {w : Waiting}
    (law : Law key history w) (payload : String) :
    times .inserted key payload (sinceDestroyed key history) =
      times .delivered key payload (sinceDestroyed key history) +
        times .removed key payload (sinceDestroyed key history) +
        (w payload).isSome.toNat := by
  induction law with
  | nil => rfl
  | @snoc history w w' r answer before step ih =>
    unfold sinceDestroyed at *
    rw [List.rtakeWhile_concat]
    cases gone : destroys key (r, answer) with
    | true =>
      rw [step.empty_of_destroys gone]
      rfl
    | false =>
      have change := step.balance payload gone
      have append (d : Deed) (past : List (Request × Answer)) :
          times d key payload (past ++ [(r, answer)]) =
            times d key payload past + times d key payload [(r, answer)] :=
        List.countP_append
      simp only [Bool.not_false, if_true, append]
      omega

end Waiting

/-- The history of every run of evaluations obeys the law of a delayed queue with what the
store has under the key, which no point of time makes expire. Nothing is delivered early,
twice for one insertion or after its removal, and nothing is lost : since the queue was last
destroyed, each payload was inserted as often as it was delivered or removed, and once more
if it waits. -/
theorem delayed_history (run : List (Nat × Request)) (key : String) :
    let history := (Keyspace.history run).1
    let waiting := (Keyspace.history run).2.waiting key
    Waiting.Law key history waiting ∧
      (∀ now, Waiting.ofEntry ((Keyspace.history run).2.live? now key) = waiting) ∧
      ∀ payload,
        Waiting.times .inserted key payload (Waiting.sinceDestroyed key history) =
          Waiting.times .delivered key payload (Waiting.sinceDestroyed key history) +
            Waiting.times .removed key payload (Waiting.sinceDestroyed key history) +
            (waiting payload).isSome.toNat := by
  obtain ⟨sound, law⟩ := Keyspace.law_foldl_serve key run .empty .nil
  exact ⟨law, fun now => (sound.waiting_eq now key).symm, law.balance⟩

/-- A payload that is put in again is delivered at its later date, behind its elder. -/
example :
    (Keyspace.history
      [(0, Command.delayedPush.request ["q"] ["b", "5"]),
        (0, Command.delayedPush.request ["q"] ["a", "4"]),
        (0, Command.delayedPush.request ["q"] ["a", "6"]),
        (0, Command.delayedPop.request ["q"] ["4"]),
        (0, Command.delayedPop.request ["q"] ["7"]),
        (0, Command.delayedRemove.request ["q"] ["a"])]).1.map (·.2) =
      [.ok (.int 1), .ok (.int 1), .ok (.int 0), .ok .nil, .ok (.text "b"), .ok (.int 1)] := by
  cbv

end Turnstile
