import Mathlib.Data.List.DropRight
import Turnstile.Proofs.Store.Sound

/-!
# The history of a queue

The line of a key is the list stored under it, or nothing. `Line.Step` says what one access
shows and makes of the line, with one case for each script on the queue; whatever else
clients do leaves the line alone (`Keyspace.Sound.step_line`). No point of time makes a line
expire (`Keyspace.Sound.line_eq`).

So the line and the history account for each other. Since a key was last emptied, what was
pushed on it is what was popped off it followed by what stands in line, in this order
(`Keyspace.pushed_history`). `line_history` puts this together with what the next request
is answered, after every run of accesses by whichever clients. Which requests push and pop is
told by the name of the script, the keys and the arguments (`Line.pushed?_eq_some_iff`,
`Line.popped?_eq_some_iff`).
-/

namespace Turnstile

/-- Whether an action works on the line of a key. -/
def Action.OnLine (key : String) : Action → Prop
  | push key' _ | pop key' | len key' => key' = key
  | destroy keys => key ∈ keys
  | _ => False

theorem Action.mem_keys_of_onLine {a : Action} {key : String} (h : a.OnLine key) :
    key ∈ a.keys := by
  cases a with
  | push | pop | len =>
    obtain rfl := h
    exact List.mem_singleton_self _
  | destroy => exact h
  | _ => exact h.elim

namespace Line

/-- The payloads that stand in line in an entry. -/
def ofEntry : Option Entry → List String
  | some ⟨.list items, _⟩ => items
  | _ => []

/-- What an access shows, and the line of a key after it, where `line` is the line before. -/
inductive Step (key : String) (line : List String) : Access → Seen → List String → Prop
  /-- A payload joins the line at its end. -/
  | push {r : Request} {p : String} (asked : Action.ofRequest r = .ok (.push key p)) :
    Step key line (.eval r) (.answer (.ok (.int (line ++ [p]).length))) (line ++ [p])
  /-- The first payload leaves the line. -/
  | pop {r : Request} {p : String} {rest : List String}
    (asked : Action.ofRequest r = .ok (.pop key)) (first : line = p :: rest) :
    Step key line (.eval r) (.answer (.ok (.text p))) rest
  | drained {r : Request} (asked : Action.ofRequest r = .ok (.pop key)) (none : line = []) :
    Step key line (.eval r) (.answer (.ok .nil)) line
  | len {r : Request} (asked : Action.ofRequest r = .ok (.len key)) :
    Step key line (.eval r) (.answer (.ok (.int line.length))) line
  | destroy {r : Request} {keys : List String} {answer : Answer}
    (asked : Action.ofRequest r = .ok (.destroy keys)) (named : key ∈ keys) :
    Step key line (.eval r) (.answer answer) []
  | clear : Step key line .clear .nothing []
  /-- The key holds something else, so nothing stands in line there. -/
  | refuse {r : Request} {a : Action} {e : StoreError} (asked : Action.ofRequest r = .ok a)
    (none : line = []) : Step key line (.eval r) (.answer (.error e)) line
  /-- The request is malformed or not about the line. -/
  | leave {r : Request} {answer : Answer}
    (asked : ∀ a, Action.ofRequest r = .ok a → ¬a.OnLine key) :
    Step key line (.eval r) (.answer answer) line
  | look {other : String} {found : Bool} : Step key line (.contains other) (.flag found) line
  | time {other : String} {left : Option Nat} :
    Step key line (.timeLeft other) (.span? left) line

/-! ## What an action does to an entry -/

theorem ofEntry_filter {e : Option Entry} (sound : ∀ e' ∈ e, Entry.Sound e') (now : Nat) :
    ofEntry (e.filter fun e => !e.isExpired now) = ofEntry e :=
  view_filter (fun _ _ => rfl) sound now

/-- A list that has become empty leaves nobody in line, as does its absence. -/
theorem ofEntry_store_list (items : List String) (t : Option Nat) (live : Option Entry) :
    ofEntry ((Change.store ⟨.list items, t⟩).on live) = items := by
  unfold Change.store
  split
  · next drained => exact (by simpa [Value.isEmptyCollection] using drained : items = []).symm
  · rfl

/-- An action on another kind of value leaves the line. -/
theorem ofEntry_effect {key : String} {a : Action} (now : Nat) (live : Option Entry)
    (named : a.key? = some key) (other : ¬a.OnLine key) :
    ofEntry ((a.effect now live).2.on live) = ofEntry live := by
  cases a with
  | acquire | reenter | renew | release | owner =>
    exact view_effect (fun _ _ => rfl) (by trivial) now live
  | destroy => cases named
  | push | pop | len => exact absurd (Option.some.inj named) other
  | delayedPush | delayedLen => rcases live with _ | ⟨_ | _ | _, _⟩ <;> rfl
  | delayedPop =>
    rcases live with _ | ⟨_ | _ | _, _⟩
    · rfl
    · rfl
    · rfl
    · unfold Action.effect Change.store
      dsimp only
      split <;> split <;> rfl
  | delayedRemove =>
    rcases live with _ | ⟨_ | _ | _, _⟩
    · rfl
    · rfl
    · rfl
    · unfold Action.effect Change.store
      dsimp only
      split <;> rfl

/-- An action on the line is a step of it. -/
theorem Step.of_effect {key : String} {r : Request} {a : Action} (now : Nat)
    {live : Option Entry} (sound : ∀ e ∈ live, Entry.Sound e)
    (asked : Action.ofRequest r = .ok a) (named : a.key? = some key) (about : a.OnLine key) :
    Step key (ofEntry live) (.eval r) (.answer (a.effect now live).1)
      (ofEntry ((a.effect now live).2.on live)) := by
  cases a with
  | push _ p =>
    obtain rfl := Option.some.inj named
    rcases live with _ | ⟨_ | items | _, t⟩
    · exact .push asked
    · exact .refuse asked rfl
    · exact .push asked
    · exact .refuse asked rfl
  | pop =>
    obtain rfl := Option.some.inj named
    rcases live with _ | ⟨_ | items | _, t⟩
    · exact .drained asked rfl
    · exact .refuse asked rfl
    · -- a stored list has a first payload
      cases sound _ rfl with
      | list filled =>
        obtain ⟨p, rest, rfl⟩ := List.exists_cons_of_ne_nil filled
        unfold Action.effect
        dsimp only
        rw [ofEntry_store_list]
        exact .pop asked rfl
    · exact .refuse asked rfl
  | len =>
    obtain rfl := Option.some.inj named
    rcases live with _ | ⟨_ | items | _, t⟩
    · exact .len asked
    · exact .refuse asked rfl
    · exact .len asked
    · exact .refuse asked rfl
  | destroy => cases named
  | _ => exact about.elim

end Line

/-! ## Accesses -/

namespace Keyspace

/-- The line of a key. -/
def line (k : Keyspace) (key : String) : List String := Line.ofEntry k.entries[key]?

section Sound

variable {k : Keyspace} (h : k.Sound) (now : Nat) (key : String)

include h

/-- A line never expires : it is live at every point of time. -/
theorem Sound.line_eq : k.line key = Line.ofEntry (k.live? now key) :=
  (Line.ofEntry_filter (h key) now).symm

theorem Sound.line_touch (other : String) : (k.touch now other).line key = k.line key := by
  rw [(h.touch now other).line_eq now, h.line_eq now, live?_touch]

theorem Sound.step_line_eval (r : Request) :
    Line.Step key (k.line key) (.eval r) (.answer (k.eval now r).1)
      ((k.eval now r).2.line key) := by
  rw [h.line_eq now, (h.eval now r).line_eq now]
  rcases k.eval_cases now r key with
    ⟨a, asked, named, answered, shown⟩ | ⟨keys, asked, mem, shown⟩ | ⟨other, shown⟩
  · have live := h.live now key
    rw [shown, answered, Line.ofEntry_filter ((a.effect_sound now live).on live)]
    by_cases about : a.OnLine key
    · exact .of_effect now live asked named about
    · rw [Line.ofEntry_effect now _ named about]
      refine .leave fun a' asked' => ?_
      obtain rfl := Except.ok.inj (asked.symm.trans asked')
      exact about
  · rw [shown]
    exact .destroy asked mem
  · rw [shown]
    exact .leave fun a asked about => other a asked (Action.mem_keys_of_onLine about)

/-- An access is a step of the line of any key. -/
theorem Sound.step_line (x : Access) :
    Line.Step key (k.line key) x (k.access now x).1 ((k.access now x).2.line key) := by
  cases x with
  | eval r => exact h.step_line_eval now key r
  | contains other =>
    have kept : (k.access now (.contains other)).2.line key = k.line key :=
      h.line_touch now key other
    rw [kept]
    exact .look
  | timeLeft other =>
    have kept : (k.access now (.timeLeft other)).2.line key = k.line key :=
      h.line_touch now key other
    rw [kept]
    exact .time
  | clear =>
    have gone : (k.access now .clear).2.line key = [] := by
      rw [(h.access now .clear).line_eq now]
      exact congrArg Line.ofEntry (k.live?_clear now key)
    rw [gone]
    exact .clear

end Sound

end Keyspace

/-! ## What is pushed and what is popped -/

namespace Line

/-- The payload that an access pushed on the line of a key, if it did. -/
def pushed? (key : String) : Access × Seen → Option String
  | (.eval r, .answer (.ok _)) =>
    match Action.ofRequest r with
    | .ok (.push key' p) => if key' = key then some p else none
    | _ => none
  | _ => none

/-- The payload that an access popped off the line of a key, if it did. -/
def popped? (key : String) : Access × Seen → Option String
  | (.eval r, .answer (.ok (.text p))) =>
    match Action.ofRequest r with
    | .ok (.pop key') => if key' = key then some p else none
    | _ => none
  | _ => none

/-- Whether an access deleted a key or everything. -/
def empties (key : String) : Access × Seen → Bool
  | (.eval r, _) =>
    match Action.ofRequest r with
    | .ok (.destroy keys) => key ∈ keys
    | _ => false
  | (.clear, _) => true
  | _ => false

/-- A history since a key was last deleted, or everything was. -/
def sinceEmptied (key : String) (history : List (Access × Seen)) : List (Access × Seen) :=
  history.rtakeWhile fun x => !empties key x

section Step

variable {key : String} {line line' : List String} {x : Access} {seen : Seen}

/-- A payload was pushed by a request to do so that succeeded. -/
theorem pushed?_eq_some_iff {p : String} :
    pushed? key (x, seen) = some p ↔
      ∃ r reply, x = .eval r ∧ seen = .answer (.ok reply) ∧
        r.script.name = Command.push.name ∧ r.keys[0]? = some key ∧ r.args[0]? = some p := by
  simp only [← Action.ofRequest_eq_push_iff]
  unfold pushed?
  constructor
  · intro pushed
    split at pushed
    · next r reply same =>
      cases same
      split at pushed
      · next key' p' asked =>
        obtain ⟨rfl, rfl⟩ : key' = key ∧ p' = p := by simpa using pushed
        exact ⟨r, reply, rfl, rfl, asked⟩
      · cases pushed
    · cases pushed
  · rintro ⟨r, reply, rfl, rfl, asked⟩
    simp [asked]

/-- A payload was popped by a request that was answered with it. -/
theorem popped?_eq_some_iff {p : String} :
    popped? key (x, seen) = some p ↔
      ∃ r, x = .eval r ∧ seen = .answer (.ok (.text p)) ∧
        r.script.name = Command.pop.name ∧ r.keys[0]? = some key := by
  simp only [← Action.ofRequest_eq_pop_iff]
  unfold popped?
  constructor
  · intro popped
    split at popped
    · next r p' same =>
      cases same
      split at popped
      · next key' asked =>
        obtain ⟨rfl, rfl⟩ : key' = key ∧ p' = p := by simpa using popped
        exact ⟨r, rfl, rfl, asked⟩
      · cases popped
    · cases popped
  · rintro ⟨r, rfl, rfl, asked⟩
    simp [asked]

theorem empties_iff :
    empties key (x, seen) ↔
      (∃ r, x = .eval r ∧ r.script.name = Command.destroy.name ∧ key ∈ r.keys) ∨ x = .clear := by
  unfold empties
  constructor
  · intro gone
    split at gone
    · next r _ same =>
      cases same
      split at gone
      · next keys asked =>
        obtain ⟨name, rfl⟩ := Action.ofRequest_eq_destroy_iff.1 asked
        exact .inl ⟨r, rfl, name, of_decide_eq_true gone⟩
      · cases gone
    · next same =>
      cases same
      exact .inr rfl
    · cases gone
  · rintro (⟨r, rfl, name, named⟩ | rfl)
    · simpa [Action.ofRequest_eq_destroy_iff.2 ⟨name, rfl⟩] using named
    · rfl

theorem pushed?_of_leave {r : Request} (other : ∀ a, Action.ofRequest r = .ok a → ¬a.OnLine key)
    (seen : Seen) : pushed? key (.eval r, seen) = none := by
  refine Option.eq_none_iff_forall_ne_some.2 fun p pushed => ?_
  obtain ⟨_, _, ⟨⟩, -, asked⟩ := pushed?_eq_some_iff.1 pushed
  exact other _ (Action.ofRequest_eq_push_iff.2 asked) rfl

theorem popped?_of_leave {r : Request} (other : ∀ a, Action.ofRequest r = .ok a → ¬a.OnLine key)
    (seen : Seen) : popped? key (.eval r, seen) = none := by
  refine Option.eq_none_iff_forall_ne_some.2 fun p popped => ?_
  obtain ⟨_, ⟨⟩, -, asked⟩ := popped?_eq_some_iff.1 popped
  exact other _ (Action.ofRequest_eq_pop_iff.2 asked) rfl

/-- One access accounts for the change of the line, unless it empties the key. -/
theorem Step.balance (step : Step key line x seen line') (kept : empties key (x, seen) = false) :
    line ++ (pushed? key (x, seen)).toList = (popped? key (x, seen)).toList ++ line' := by
  cases step with
  | push asked => simp [pushed?, popped?, asked]
  | pop asked first => simp [pushed?, popped?, asked, first]
  | drained asked none => simp [pushed?, popped?, asked]
  | len asked => simp [pushed?, popped?, asked]
  | destroy asked named => simp [empties, asked, named] at kept
  | clear => simp [empties] at kept
  | refuse asked none => simp [pushed?, popped?]
  | leave other => simp [pushed?_of_leave other, popped?_of_leave other]
  | look => simp [pushed?, popped?]
  | time => simp [pushed?, popped?]

theorem Step.nil_of_empties (step : Step key line x seen line') (gone : empties key (x, seen)) :
    line' = [] := by
  obtain ⟨r, rfl, name, named⟩ | rfl := empties_iff.1 gone
  · have destroyed := Action.ofRequest_eq_destroy_iff.2 ⟨name, rfl⟩
    cases step with
    | destroy => rfl
    | refuse _ none => exact none
    | leave other => exact absurd named (other _ destroyed)
    | push asked | pop asked | drained asked | len asked => cases destroyed.symm.trans asked
  · cases step
    rfl

/-- What a push, a pop and a question for the length are answered if they succeed. -/
theorem Step.reply {r : Request} {reply : Reply}
    (step : Step key line (.eval r) (.answer (.ok reply)) line') :
    (∀ p, Action.ofRequest r = .ok (.push key p) → reply = .int line'.length) ∧
      (Action.ofRequest r = .ok (.pop key) → (reply = .nil ↔ line = [])) ∧
      (Action.ofRequest r = .ok (.len key) → reply = .int line.length) := by
  cases step with
  | push asked => simp [asked]
  | pop asked first => simp [asked, first]
  | drained asked none => simp [asked, none]
  | len asked => simp [asked]
  | destroy asked => simp [asked]
  | leave other =>
    exact ⟨fun _ asked => absurd rfl (other _ asked), fun asked => absurd rfl (other _ asked),
      fun asked => absurd rfl (other _ asked)⟩

end Step

end Line

namespace Keyspace

/-- The accesses of a run from the empty keyspace, each with what it showed. -/
def accesses (run : List (Nat × Access)) : List (Access × Seen) :=
  (run.map (·.2)).zip (replay access run {}).1

theorem accesses_concat (run : List (Nat × Access)) (x : Nat × Access) :
    accesses (run ++ [x]) =
      accesses run ++ [(x.2, ((replay access run {}).2.access x.1 x.2).1)] := by
  unfold accesses
  rw [replay_concat, List.map_append, List.zip_append (by simp [length_replay])]
  rfl

/-- Since a key was last emptied, what was pushed on it is what was popped off it, followed by
what stands in line. -/
theorem pushed_history (run : List (Nat × Access)) (key : String) :
    (Line.sinceEmptied key (accesses run)).filterMap (Line.pushed? key) =
      (Line.sinceEmptied key (accesses run)).filterMap (Line.popped? key) ++
        (replay access run {}).2.line key := by
  induction run using List.reverseRecOn with
  | nil => simp [accesses, replay, Line.sinceEmptied, line, Line.ofEntry]
  | append_singleton run x ih =>
    have step := (Sound.empty.replay run).step_line x.1 key x.2
    unfold Line.sinceEmptied at *
    rw [accesses_concat, replay_concat, List.rtakeWhile_concat]
    cases gone : Line.empties key (x.2, ((replay access run {}).2.access x.1 x.2).1) with
    | true => simp [step.nil_of_empties gone]
    | false =>
      have one (f : Access × Seen → Option String) (y : Access × Seen) :
          [y].filterMap f = (f y).toList := by
        rw [List.filterMap_eq_flatMap_toList, List.flatMap_singleton]
      simp only [Bool.not_false, if_true, List.filterMap_append, one]
      rw [ih, List.append_assoc, step.balance gone, List.append_assoc]

end Keyspace

/-- After every run of accesses, by whichever clients and at whatever points of time, a line and
its history account for each other. Since the key was last named by a deletion, or everything
was cleared, what was pushed is what was popped followed by what stands in line, which is live
at every point of time. And whenever the next request is a push, a pop or a question for the
length and succeeds, it is answered by the new length, by nil exactly if nobody stands in line,
and by the length. -/
theorem line_history (run : List (Nat × Access)) (key : String) :
    let past := Line.sinceEmptied key (Keyspace.accesses run)
    let k := (replay Keyspace.access run {}).2
    past.filterMap (Line.pushed? key) = past.filterMap (Line.popped? key) ++ k.line key ∧
      (∀ now, Line.ofEntry (k.live? now key) = k.line key) ∧
      ∀ now r reply, (k.eval now r).1 = .ok reply →
        (∀ p, Action.ofRequest r = .ok (.push key p) →
          reply = .int ((k.eval now r).2.line key).length) ∧
        (Action.ofRequest r = .ok (.pop key) → (reply = .nil ↔ k.line key = [])) ∧
        (Action.ofRequest r = .ok (.len key) → reply = .int (k.line key).length) := by
  have sound := Keyspace.Sound.empty.replay run
  refine ⟨Keyspace.pushed_history run key, fun now => (sound.line_eq now key).symm, ?_⟩
  intro now r reply answered
  have step := sound.step_line_eval now key r
  rw [answered] at step
  exact step.reply

/-- A key that was a lock becomes a queue when its lease is over, and is destroyed once. -/
example :
    let run : List (Nat × Access) :=
      [(0, .eval (Command.acquire.request ["x"] ["h:1.1:1", "1"])),
        (0, .eval (Command.push.request ["x"] ["a"])),
        (Time.ofMillis 1, .eval (Command.push.request ["x"] ["b"])),
        (Time.ofMillis 1, .eval (Command.destroy.request ["y", "x"] [])),
        (Time.ofMillis 2, .eval (Command.push.request ["x"] ["c"])),
        (Time.ofMillis 2, .eval (Command.push.request ["x"] ["d"])),
        (Time.ofMillis 3, .eval (Command.pop.request ["x"] []))]
    let past := Line.sinceEmptied "x" (Keyspace.accesses run)
    past.filterMap (Line.pushed? "x") = ["c", "d"] ∧
      past.filterMap (Line.popped? "x") = ["c"] ∧
      (replay Keyspace.access run {}).2.line "x" = ["d"] := by
  cbv

end Turnstile
