import Turnstile.Server.Client

/-!
# What a client sends to have a script run

A client asks a server to run a script by the digest of a body, and sends the body only to a
server that does not know it. `Connection.recorded` writes down every command with the answer
it got, and `Conversation` says which commands these can be : one question, or a question that
is answered by "unknown script", the body, and the same question once more unless the body was
refused.

The body is the one that the client keeps for the script's name. It is that of the first script
of this name that the client was ever given (`ServerClient.sends_first_body`), whatever the
servers answered and whether there was a connection or not. So scripts are run as they are given
as long as no two of them share a name (`ServerClient.firstBody_command` : those of the locks and
queues do not); of two that do, the second is never run (`ServerClient.shared_name`).
-/

namespace Turnstile

/-! ## Conversations -/

/-- The answer to a command, before it is looked at for errors. -/
abbrev ServerAnswer := Except ServerFault ServerValue

/-- The server does not know the script that it was to run. -/
def ServerAnswer.SaysUnknown (answer : ServerAnswer) : Prop :=
  ∃ e : ServerError, answer.bind ServerValue.checked = .error (.signalled e) ∧
    e.isUnknownScript = true

/-- The server did as it was told. -/
def ServerAnswer.IsGood (answer : ServerAnswer) : Prop :=
  ∃ v, answer.bind ServerValue.checked = .ok v

/-- What is said to have a script run, by a question that names it and a command that explains
it. -/
inductive Conversation {α : Type} (ask explain : α) : List (α × ServerAnswer) → Prop
  | known {answer : ServerAnswer} (known : ¬answer.SaysUnknown) :
    Conversation ask explain [(ask, answer)]
  | refused {answer explained : ServerAnswer} (unknown : answer.SaysUnknown)
    (refused : ¬explained.IsGood) :
    Conversation ask explain [(ask, answer), (explain, explained)]
  | explained {answer explained again : ServerAnswer} (unknown : answer.SaysUnknown)
    (good : explained.IsGood) :
    Conversation ask explain [(ask, answer), (explain, explained), (ask, again)]

theorem Conversation.map {α β : Type} {ask explain : α} {said : List (α × ServerAnswer)}
    (conversation : Conversation ask explain said) (f : α → β) :
    Conversation (f ask) (f explain) (said.map (Prod.map f id)) := by
  cases conversation with
  | known known => exact .known known
  | refused unknown refused => exact .refused unknown refused
  | explained unknown good => exact .explained unknown good

/-! ## Runs of a body -/

namespace Connection

variable {σ : Type} {c : Connection σ} {body : String} {keys args : List String} {s : σ}

theorem query_eq (c : Connection σ) (command : ServerCommand) (s : σ) :
    c.query command s =
      ((c.send command s).1.bind ServerValue.checked, (c.send command s).2) := by
  unfold query
  split <;> next sent => rw [sent]; rfl

theorem runBody_known
    (known : ¬ServerAnswer.SaysUnknown (c.send (.run body keys args) s).1) :
    c.runBody body keys args s =
      (((c.send (.run body keys args) s).1.bind ServerValue.checked).bind ServerValue.reply,
        (c.send (.run body keys args) s).2) := by
  unfold runBody
  simp only [query_eq]
  rcases given : (c.send (.run body keys args) s).1.bind ServerValue.checked with fault | v
  · cases fault with
    | signalled e =>
      have other : ¬e.isUnknownScript = true := fun unknown => known ⟨e, given, unknown⟩
      simp only [if_neg other]
      rfl
    | connection reason => rfl
    | client kind description detail => rfl
  · rfl

section Unknown

variable (unknown : ServerAnswer.SaysUnknown (c.send (.run body keys args) s).1)

include unknown

theorem runBody_refused {f : ServerFault}
    (refused : (c.send (.load body) (c.send (.run body keys args) s).2).1.bind
      ServerValue.checked = .error f) :
    c.runBody body keys args s =
      (.error f, (c.send (.load body) (c.send (.run body keys args) s).2).2) := by
  obtain ⟨e, given, unknown⟩ := unknown
  unfold runBody
  simp only [query_eq, given, if_pos unknown, refused]

theorem runBody_explained {v : ServerValue}
    (good : (c.send (.load body) (c.send (.run body keys args) s).2).1.bind
      ServerValue.checked = .ok v) :
    c.runBody body keys args s =
      let again := c.send (.run body keys args)
        (c.send (.load body) (c.send (.run body keys args) s).2).2
      ((again.1.bind ServerValue.checked).bind ServerValue.reply, again.2) := by
  obtain ⟨e, given, unknown⟩ := unknown
  unfold runBody
  simp only [query_eq, given, if_pos unknown, good]

end Unknown

/-! ## Recorded connections -/

/-- A connection on which every command is written down with its answer. -/
def recorded (c : Connection σ) : Connection (σ × List (ServerCommand × ServerAnswer)) where
  connect | (s, said) => (c.connect s).map (·, said)
  send
    | command, (s, said) =>
      let (answer, s) := c.send command s
      (answer, (s, said ++ [(command, answer)]))

/-- Writing down does not change what a run comes to, and what is written down is a
conversation about the body. -/
theorem runBody_recorded (c : Connection σ) (body : String) (keys args : List String) (s : σ) :
    ∃ said, Conversation (.run body keys args) (.load body) said ∧
      c.recorded.runBody body keys args (s, []) =
        ((c.runBody body keys args s).1, ((c.runBody body keys args s).2, said)) := by
  by_cases unknown : ServerAnswer.SaysUnknown (c.send (.run body keys args) s).1
  · rcases told : (c.send (.load body) (c.send (.run body keys args) s).2).1.bind
      ServerValue.checked with f | v
    · have refused : ¬ServerAnswer.IsGood
          (c.send (.load body) (c.send (.run body keys args) s).2).1 := by
        rintro ⟨v, good⟩
        cases told.symm.trans good
      rw [runBody_refused unknown told,
        runBody_refused (c := c.recorded) (s := (s, [])) unknown told]
      exact ⟨_, .refused unknown refused, rfl⟩
    · rw [runBody_explained unknown told,
        runBody_explained (c := c.recorded) (s := (s, [])) unknown told]
      exact ⟨_, .explained unknown ⟨v, told⟩, rfl⟩
  · rw [runBody_known unknown, runBody_known (c := c.recorded) (s := (s, [])) unknown]
    exact ⟨_, .known unknown, rfl⟩

end Connection

/-! ## Kept bodies -/

namespace ServerClient

/-- The body of the first request that runs a script of the same name, or else of the script
itself. -/
def firstBody (past : List Request) (script : Script) : String :=
  match past.find? fun r => r.script.name == script.name with
  | some r => r.script.body
  | none => script.body

/-- A client and its servers after some requests. -/
def after {σ : Type} (c : Connection σ) (past : List Request) (s : σ) : ServerClient × σ :=
  past.foldl (fun (client, s) r => (client.eval c r s).2.2) ({}, s)

section After

variable {σ : Type} (c : Connection σ)

theorem eval_client (client : ServerClient) (r : Request) (s : σ) :
    (client.eval c r s).2.2.1 = (client.bodyOf r.script).2 := by
  unfold eval
  rcases c.connect s with f | s
  · rfl
  · dsimp only
    rcases c.runBody (client.bodyOf r.script).1 r.keys r.args s with ⟨_ | reply, s⟩ <;> rfl

theorem getElem?_bodyOf (client : ServerClient) (script : Script) (name : String) :
    (client.bodyOf script).2.bodies[name]? =
      client.bodies[name]?.or (if script.name = name then some script.body else none) := by
  unfold bodyOf
  split
  · next body kept =>
    by_cases same : script.name = name
    · rw [← same, kept, Option.some_or]
    · rw [if_neg same, Option.or_none]
  · next new =>
    dsimp only
    rw [Std.TreeMap.getElem?_insert]
    by_cases same : script.name = name
    · rw [← same, new]
      simp
    · simp [same]

/-- A body is kept from the first script of its name on. -/
theorem getElem?_bodies_foldl (past : List Request) (client : ServerClient) (s : σ)
    (name : String) :
    (past.foldl (fun (client, s) r => (client.eval c r s).2.2) (client, s)).1.bodies[name]? =
      client.bodies[name]?.or
        ((past.find? fun r => r.script.name == name).map (·.script.body)) := by
  -- by induction from the first request on, from any client, as it may keep bodies by then
  induction past generalizing client s with
  | nil => simp
  | cons r past ih =>
    rw [List.foldl_cons, List.find?_cons]
    have kept := getElem?_bodyOf client r.script name
    rw [← eval_client c client r s] at kept
    rw [ih, kept]
    by_cases same : r.script.name = name
    · simp [same]
    · have other : (r.script.name == name) = false := beq_eq_false_iff_ne.2 same
      simp [same, other]

/-- The body that a client takes is that of the first script of the name. -/
theorem bodyOf_after (past : List Request) (s : σ) (script : Script) :
    ((after c past s).1.bodyOf script).1 = firstBody past script := by
  have kept : (after c past s).1.bodies[script.name]? =
      (past.find? fun r => r.script.name == script.name).map (·.script.body) := by
    rw [after, getElem?_bodies_foldl]
    simp
  unfold bodyOf firstBody
  rw [kept]
  cases past.find? fun r => r.script.name == script.name <;> rfl

end After

/-! ## What is sent -/

theorem firstBody_eq {past : List Request} {script : Script}
    (same : ∀ r ∈ past, r.script.name = script.name → r.script.body = script.body) :
    firstBody past script = script.body := by
  unfold firstBody
  split
  · next r found =>
    exact same r (List.mem_of_find?_eq_some found) (by simpa using List.find?_some found)
  · rfl

/-- What locks and queues have run is always run from its own body. -/
theorem firstBody_command {past : List Request}
    (commands : ∀ r ∈ past, ∃ command : Command, r.script = command.script)
    (command : Command) : firstBody past command.script = command.script.body := by
  refine firstBody_eq fun r among same => ?_
  obtain ⟨command', script⟩ := commands r among
  rw [script] at same ⊢
  rw [Command.name_injective same]

/-- Writing down does not change what an evaluation comes to. Nothing is said without a
connection, and else what is said is about the body that the client takes. -/
theorem eval_recorded {σ : Type} (c : Connection σ) (client : ServerClient) (r : Request)
    (s : σ) :
    ∃ said, client.eval c.recorded r (s, []) =
        ((client.eval c r s).1, (client.eval c r s).2.1, (client.eval c r s).2.2.1,
          (client.eval c r s).2.2.2, said) ∧
      (∀ f, c.connect s = .error f → said = []) ∧
      ∀ s', c.connect s = .ok s' →
        Conversation (.run (client.bodyOf r.script).1 r.keys r.args)
          (.load (client.bodyOf r.script).1) said := by
  unfold eval
  rcases connected : c.connect s with f | s'
  · have failed : c.recorded.connect (s, []) = .error f := by
      simp [Connection.recorded, connected, Except.map]
    rw [failed]
    exact ⟨[], rfl, fun _ _ => rfl, by rintro s' ⟨⟩⟩
  · have opened : c.recorded.connect (s, []) = .ok (s', []) := by
      simp [Connection.recorded, connected, Except.map]
    obtain ⟨said, conversation, run⟩ :=
      c.runBody_recorded (client.bodyOf r.script).1 r.keys r.args s'
    rw [opened]
    dsimp only
    rw [run]
    refine ⟨said, ?_, by rintro f ⟨⟩, fun _ _ => conversation⟩
    rcases c.runBody (client.bodyOf r.script).1 r.keys r.args s' with ⟨_ | reply, s''⟩ <;> rfl

/-- A client runs every script from the body of the first script of its name that it was given,
after whatever requests and whatever the servers answered : it sends the digest of this body,
the number of the keys, the keys and the arguments in their order, and to a server that does not
know the script this body, and then the same words again unless the body was refused. Without a
connection it sends nothing. The body is the script's own if all earlier scripts of this name
have the same. -/
theorem sends_first_body {σ : Type} (c : Connection σ) (past : List Request) (start : σ)
    (r : Request) (digest : String → String) :
    let client := (after c past start).1
    let s := (after c past start).2
    let body := firstBody past r.script
    ∃ said, client.eval c.recorded r (s, []) =
        ((client.eval c r s).1, (client.eval c r s).2.1, (client.eval c r s).2.2.1,
          (client.eval c r s).2.2.2, said) ∧
      (∀ f, c.connect s = .error f → said = []) ∧
      (∀ s', c.connect s = .ok s' →
        Conversation
          (["EVALSHA", digest body, Text.Decimal.ofNat r.keys.length] ++ r.keys ++ r.args)
          ["SCRIPT", "LOAD", body] (said.map (Prod.map (ServerCommand.words digest) id))) ∧
      ((∀ r' ∈ past, r'.script.name = r.script.name → r'.script.body = r.script.body) →
        body = r.script.body) := by
  intro client s body
  obtain ⟨said, recorded, silent, conversation⟩ := client.eval_recorded c r s
  refine ⟨said, recorded, silent, fun s' connected => ?_, firstBody_eq⟩
  have kept : (client.bodyOf r.script).1 = body := bodyOf_after c past start r.script
  rw [kept] at conversation
  exact (conversation s' connected).map (ServerCommand.words digest)

/-- A server with prepared answers. -/
def prepared : Connection (List ServerAnswer) where
  connect s := .ok s
  send
    | _, [] => (.ok .nil, [])
    | _, answer :: answers => (answer, answers)

/-- The second of two scripts of one name is neither run nor sent. -/
theorem shared_name :
    let one : Request := ⟨⟨"s", "return 1"⟩, ["k"], ["a"]⟩
    let two : Request := ⟨⟨"s", "return 2"⟩, ["k"], ["a"]⟩
    let answers : List ServerAnswer :=
      [.ok (.int 1), .error (.signalled ⟨"NOSCRIPT", none⟩), .ok .okay, .ok (.int 1)]
    let client := (after prepared [one] answers).1
    let s := (after prepared [one] answers).2
    (client.eval prepared.recorded two (s, [])).2.2.2.2.map Prod.fst =
      [.run "return 1" ["k"] ["a"], .load "return 1", .run "return 1" ["k"] ["a"]] := by
  rfl

end ServerClient

end Turnstile
