import Turnstile.Lock.Call
import Turnstile.Proofs.Store.Effect

/-!
# What one question does

A handle asks the store one question at a time, and every question names the key of the
handle and no other. `Stage.Outcome` lists what the answer can be and what is live in the
key after it, for each stage and each entry that was live before; `Stage.outcome` : an
evaluation of the question has such an outcome.
-/

namespace Turnstile

namespace Lock

/-- How long a lock that a handle takes is kept, in nanoseconds. -/
def Handle.span (h : Handle) : Nat := Time.ofMillis h.leaseMillis

/-- How a script refuses a lease that does not fit 64 bits. -/
def Handle.leaseRefusal (h : Handle) (script : String) : StoreError :=
  .invalidArgument script (Text.quoted h.leaseArg ++ " is not an integer")

theorem Handle.one_le_leaseMillis (h : Handle) : 1 ≤ h.leaseMillis := Nat.le_max_right _ _

theorem Handle.span_pos (h : Handle) : 0 < h.span :=
  Nat.mul_pos h.one_le_leaseMillis (by decide)

namespace Stage

/-- The action that a question asks for. -/
def action (h : Handle) : Stage → Action
  | renewing true => .reenter h.key h.token.owner h.span
  | renewing false => .renew h.key h.token.text h.span
  | extending => .renew h.key h.token.text h.span
  | acquiring => .acquire h.key h.token.text h.span
  | reentering => .reenter h.key h.token.owner h.span
  | releasing => .release h.key h.token.text

theorem key?_action (h : Handle) (stage : Stage) : (stage.action h).key? = some h.key := by
  rcases stage with (_ | _) | _ | _ | _ | _ <;> rfl

/-- Every question of a handle is about its key. -/
theorem keys_request (h : Handle) (stage : Stage) : (stage.request h).keys = [h.key] := by
  rcases stage with (_ | _) | _ | _ | _ | _ <;> rfl

/-- A command that takes a key, a text and a lease is understood if the lease fits. -/
theorem ofRequest_leased (h : Handle) (own : String) {c : Command}
    (make : String → String → Nat → Action)
    (form : ∀ r, Action.ofCommand r c =
      (do return make (← r.key 0) (← r.arg 0) (← r.lease 1))) :
    (h.leaseMillis ≤ 9223372036854775807 ∧
        Action.ofRequest (c.request [h.key] [own, h.leaseArg]) = .ok (make h.key own h.span)) ∨
      9223372036854775807 < h.leaseMillis ∧
        Action.ofRequest (c.request [h.key] [own, h.leaseArg]) =
          .error (h.leaseRefusal c.name) := by
  rw [Action.ofRequest_request, form]
  have key : (c.request [h.key] [own, h.leaseArg]).key 0 = .ok h.key := rfl
  have arg : (c.request [h.key] [own, h.leaseArg]).arg 0 = .ok own := rfl
  by_cases fits : h.leaseMillis ≤ 9223372036854775807
  · have lease : (c.request [h.key] [own, h.leaseArg]).lease 1 = .ok h.span :=
      Request.lease_of_le rfl h.one_le_leaseMillis fits
    refine .inl ⟨fits, ?_⟩
    rw [key, arg, lease]
    rfl
  · have large := Nat.lt_of_not_le fits
    have lease : (c.request [h.key] [own, h.leaseArg]).lease 1 =
        .error (h.leaseRefusal c.name) := Request.lease_of_lt rfl large
    refine .inr ⟨large, ?_⟩
    rw [key, arg, lease]
    rfl

/-- The store understands a question, unless its lease does not fit 64 bits. -/
theorem ofRequest_request (h : Handle) (stage : Stage) :
    ((stage ≠ releasing → h.leaseMillis ≤ 9223372036854775807) ∧
        Action.ofRequest (stage.request h) = .ok (stage.action h)) ∨
      (stage ≠ releasing ∧ 9223372036854775807 < h.leaseMillis) ∧
        Action.ofRequest (stage.request h) =
          .error (h.leaseRefusal (stage.request h).script.name) := by
  have leased {own : String} {c : Command} (make : String → String → Nat → Action)
      (form : ∀ r, Action.ofCommand r c =
        (do return make (← r.key 0) (← r.arg 0) (← r.lease 1))) (later : stage ≠ releasing) :
      ((stage ≠ releasing → h.leaseMillis ≤ 9223372036854775807) ∧
          Action.ofRequest (c.request [h.key] [own, h.leaseArg]) = .ok (make h.key own h.span)) ∨
        (stage ≠ releasing ∧ 9223372036854775807 < h.leaseMillis) ∧
          Action.ofRequest (c.request [h.key] [own, h.leaseArg]) =
            .error (h.leaseRefusal c.name) :=
    (ofRequest_leased h own make form).imp (fun asked => ⟨fun _ => asked.1, asked.2⟩)
      fun refused => ⟨⟨later, refused.1⟩, refused.2⟩
  cases stage with
  | renewing byOwner =>
    cases byOwner with
    | true => exact leased .reenter (fun _ => rfl) (by simp)
    | false => exact leased .renew (fun _ => rfl) (by simp)
  | extending => exact leased .renew (fun _ => rfl) (by simp)
  | acquiring => exact leased .acquire (fun _ => rfl) (by simp)
  | reentering => exact leased .reenter (fun _ => rfl) (by simp)
  | releasing =>
    exact .inl ⟨fun lasting => absurd rfl lasting,
      Action.ofRequest_eq_release_iff.2 ⟨rfl, rfl, rfl⟩⟩

/-- Whether a question is about a token : one of the same thread, or the handle's own. -/
def owns (h : Handle) : Stage → String → Bool
  | renewing true, stored => h.token.sameOwner stored
  | reentering, stored => h.token.sameOwner stored
  | _, stored => stored == h.token.text

/-- What the answer to a question is, between what is live in the key of the handle before
and after it. -/
inductive Outcome (h : Handle) (now : Nat) : Option Entry → Stage → Answer → Option Entry → Prop
  | taken :
    Outcome h now none acquiring (.ok (.ofBool true))
      (some ⟨.text h.token.text, some (now + h.span)⟩)
  | occupied {e : Entry} :
    Outcome h now (some e) acquiring (.ok (.ofBool false)) (some e)
  | extended {stage : Stage} {stored : String} {t : Option Nat} (later : stage ≠ acquiring)
    (lasting : stage ≠ releasing) (owns : stage.owns h stored = true) :
    Outcome h now (some ⟨.text stored, t⟩) stage (.ok (.ofBool true))
      (some ⟨.text stored, some (now + h.span)⟩)
  | released {t : Option Nat} :
    Outcome h now (some ⟨.text h.token.text, t⟩) releasing (.ok (.ofBool true)) none
  | absent {stage : Stage} (later : stage ≠ acquiring) :
    Outcome h now none stage (.ok (.ofBool false)) none
  | foreign {stage : Stage} {stored : String} {t : Option Nat} (later : stage ≠ acquiring)
    (other : stage.owns h stored = false) :
    Outcome h now (some ⟨.text stored, t⟩) stage (.ok (.ofBool false)) (some ⟨.text stored, t⟩)
  /-- The key holds no token, or the lease does not fit 64 bits. -/
  | failed {live : Option Entry} {stage : Stage} {e : StoreError}
    (cause : (∃ entry ∈ live, ∀ stored, entry.value ≠ .text stored) ∨
      stage ≠ releasing ∧ 9223372036854775807 < h.leaseMillis) :
    Outcome h now live stage (.error e) live

theorem outcome_extension (h : Handle) (now : Nat) (live : Option Entry) {stage : Stage}
    (later : stage ≠ acquiring) (lasting : stage ≠ releasing) :
    Outcome h now live stage (Action.extension (stage.owns h) h.key (now + h.span) live).1
      ((Action.extension (stage.owns h) h.key (now + h.span) live).2.on live) := by
  rcases live with _ | ⟨stored | items | set, t⟩
  · exact .absent later
  · unfold Action.extension
    dsimp only
    split
    · next owns => exact .extended later lasting owns
    · next other => exact .foreign later (Bool.eq_false_iff.2 other)
  · exact .failed (.inl ⟨_, rfl, by simp⟩)
  · exact .failed (.inl ⟨_, rfl, by simp⟩)

/-- The action of a question on what is live in the key has an outcome. -/
theorem outcome_effect (h : Handle) (now : Nat) (live : Option Entry) (stage : Stage) :
    Outcome h now live stage ((stage.action h).effect now live).1
      (((stage.action h).effect now live).2.on live) := by
  cases stage with
  | renewing byOwner =>
    cases byOwner with
    | true => exact outcome_extension h now live (by simp) (by simp)
    | false => exact outcome_extension h now live (by simp) (by simp)
  | extending => exact outcome_extension h now live (by simp) (by simp)
  | reentering => exact outcome_extension h now live (by simp) (by simp)
  | acquiring =>
    rcases live with _ | e
    · exact .taken
    · exact .occupied
  | releasing =>
    rcases live with _ | ⟨stored | items | set, t⟩
    · exact .absent (by simp)
    · unfold action Action.effect
      dsimp only
      split
      · next own =>
        subst own
        exact .released
      · next other => exact .foreign (by simp) (by simpa [owns] using other)
    · exact .failed (.inl ⟨_, rfl, by simp⟩)
    · exact .failed (.inl ⟨_, rfl, by simp⟩)

/-- What an outcome leaves has not expired, as no lease is empty. -/
theorem Outcome.filter {h : Handle} {now : Nat} {live live' : Option Entry} {stage : Stage}
    {answer : Answer} (o : Outcome h now live stage answer live')
    (shown : (live.filter fun e => !e.isExpired now) = live) :
    (live'.filter fun e => !e.isExpired now) = live' := by
  have leased (stored : String) :
      ((some ⟨.text stored, some (now + h.span)⟩ : Option Entry).filter fun e => !e.isExpired now) =
        some ⟨.text stored, some (now + h.span)⟩ := by
    have := h.span_pos
    simp [Entry.isExpired]
    omega
  cases o with
  | taken => exact leased _
  | extended => exact leased _
  | released => rfl
  | absent => rfl
  | occupied => exact shown
  | foreign => exact shown
  | failed => exact shown

/-- An evaluation of a question that the store understands does to the key what its action does. -/
theorem eval_effect (h : Handle) (stage : Stage) (k : Keyspace) (now : Nat)
    (asked : Action.ofRequest (stage.request h) = .ok (stage.action h)) :
    let evaluated := k.eval now (stage.request h)
    let done := (stage.action h).effect now (k.live? now h.key)
    evaluated.1 = done.1 ∧ evaluated.2.live? now h.key = done.2.on (k.live? now h.key) := by
  intro evaluated done
  refine ⟨k.fst_eval now asked (key?_action h stage), ?_⟩
  have shown := (outcome_effect h now (k.live? now h.key) stage).filter
    (k.live?_later h.key (Nat.le_refl now)).symm
  exact ((k.live?_eval now asked (key?_action h stage) h.key).trans (if_pos rfl)).trans shown

/-- An evaluation of a question has an outcome. -/
theorem outcome (h : Handle) (stage : Stage) (k : Keyspace) (now : Nat) :
    Outcome h now (k.live? now h.key) stage (k.eval now (stage.request h)).1
      ((k.eval now (stage.request h)).2.live? now h.key) := by
  rcases ofRequest_request h stage with ⟨-, asked⟩ | ⟨refused, asked⟩
  · obtain ⟨answer, live⟩ := eval_effect h stage k now asked
    rw [answer, live]
    exact outcome_effect h now (k.live? now h.key) stage
  · rw [Keyspace.eval_of_error k now asked, Keyspace.live?_tick]
    exact .failed (.inr refused)

/-- The store answers with a reply only where the lease fits 64 bits. -/
theorem leaseMillis_le_of_reply {h : Handle} {stage : Stage} {k : Keyspace} {now : Nat}
    {reply : Reply} (answered : (k.eval now (stage.request h)).1 = .ok reply)
    (lasting : stage ≠ releasing) : h.leaseMillis ≤ 9223372036854775807 := by
  rcases ofRequest_request h stage with ⟨fits, -⟩ | ⟨-, refused⟩
  · exact fits lasting
  · rw [Keyspace.eval_of_error k now refused] at answered
    cases answered

/-! ## What an outcome tells -/

/-- Whether an answer gives a lease to the token of the handle that asked for it. -/
def grants : Stage → Answer → Bool
  | acquiring, .ok reply => reply.isYes
  | extending, .ok reply => reply.isYes
  | renewing false, .ok reply => reply.isYes
  | _, _ => false

theorem isYes_of_grants {stage : Stage} {answer : Answer} (grants : stage.grants answer = true) :
    ∃ reply, answer = .ok reply ∧ reply.isYes = true := by
  unfold Stage.grants at grants
  split at grants
  · exact ⟨_, rfl, grants⟩
  · exact ⟨_, rfl, grants⟩
  · exact ⟨_, rfl, grants⟩
  · cases grants

/-- A question that can give a lease to the handle's own token is about no other token. -/
theorem eq_of_owns_of_grants {h : Handle} {stage : Stage} {answer : Answer} {stored : String}
    (grants : stage.grants answer = true) (owns : stage.owns h stored = true) :
    stored = h.token.text := by
  rcases stage with (_ | _) | _ | _ | _ | _
  · simpa [Stage.owns] using owns
  · cases grants
  · simpa [Stage.owns] using owns
  · simpa [Stage.owns] using owns
  · cases grants
  · cases grants

/-- Every question is about the handle's own token. -/
theorem owns_text (h : Handle) (stage : Stage) : stage.owns h h.token.text = true := by
  unfold Stage.owns
  split
  · exact h.token.sameOwner_text
  · exact h.token.sameOwner_text
  · exact beq_self_eq_true _

/-- A token that a question is about is of the same owner. -/
theorem sameOwner_of_owns {h : Handle} {stage : Stage} {stored : String}
    (owns : stage.owns h stored = true) : h.token.sameOwner stored = true := by
  unfold Stage.owns at owns
  split at owns
  · exact owns
  · exact owns
  · rw [beq_iff_eq.1 owns]
    exact h.token.sameOwner_text

namespace Outcome

variable {h : Handle} {now : Nat} {live live' : Option Entry} {stage : Stage} {answer : Answer}

/-- A question that is answered yes where a token is live is about that token. -/
theorem owns_of_yes {stored : String} {t : Option Nat} {reply : Reply}
    (o : Outcome h now (some ⟨.text stored, t⟩) stage (.ok reply) live')
    (yes : reply.isYes = true) : stage.owns h stored = true := by
  cases o with
  | extended later lasting owns => exact owns
  | released => simp [Stage.owns]
  | occupied => cases yes
  | foreign => cases yes

/-- A key that is live after a question was live before with the same value, unless the
handle took it. -/
theorem value_of_live {e' : Entry} (o : Outcome h now live stage answer (some e')) :
    (stage.grants answer = true ∧ e'.value = .text h.token.text) ∨
      ∃ e, live = some e ∧ e'.value = e.value := by
  generalize after : some e' = live' at o
  cases o with
  | taken =>
    obtain rfl := Option.some.inj after
    exact .inl ⟨rfl, rfl⟩
  | extended =>
    obtain rfl := Option.some.inj after
    exact .inr ⟨_, rfl, rfl⟩
  | occupied | foreign | failed => exact .inr ⟨e', after.symm, rfl⟩
  | released | absent => cases after

/-- A token that is live stays in the key, with its expiry or with that of a lease from now
on, unless it is released. -/
theorem kept {stored : String} {expiry : Nat}
    (o : Outcome h now (some ⟨.text stored, some expiry⟩) stage answer live')
    (holds : stage = releasing → stored ≠ h.token.text) :
    ∃ expiry', live' = some ⟨.text stored, some expiry'⟩ ∧
      (expiry' = expiry ∨ expiry' = now + h.span) := by
  cases o with
  | occupied => exact ⟨expiry, rfl, .inl rfl⟩
  | extended => exact ⟨_, rfl, .inr rfl⟩
  | released => exact absurd rfl (holds rfl)
  | foreign => exact ⟨expiry, rfl, .inl rfl⟩
  | failed => exact ⟨expiry, rfl, .inl rfl⟩

/-- A refusal, other than to take the key, means that the question is not about what is in
the key, and so does every answer to a release but an error. -/
theorem not_owns_of_no {reply : Reply} {e' : Entry} {stored : String}
    (o : Outcome h now live stage (.ok reply) (some e')) (value : e'.value = .text stored)
    (told : stage = releasing ∨ stage ≠ acquiring ∧ reply.isYes = false) :
    stage.owns h stored = false := by
  cases o with
  | taken | occupied =>
    rcases told with releases | ⟨first, -⟩
    · cases releases
    · exact absurd rfl first
  | extended later lasting =>
    rcases told with releases | ⟨-, refused⟩
    · exact absurd releases lasting
    · cases refused
  | foreign later other =>
    obtain rfl := Value.text.inj value
    exact other

/-- A key that is free is taken, if the lease fits 64 bits. -/
theorem taken_of_none (o : Outcome h now none acquiring answer live')
    (fits : h.leaseMillis ≤ 9223372036854775807) :
    answer = .ok (.ofBool true) ∧ live' = some ⟨.text h.token.text, some (now + h.span)⟩ := by
  cases o with
  | taken => exact ⟨rfl, rfl⟩
  | absent later => exact absurd rfl later
  | failed cause =>
    rcases cause with ⟨entry, none, -⟩ | ⟨-, large⟩
    · cases none
    · exact absurd fits (Nat.not_le_of_lt large)

/-- A key that is not free to take is live. -/
theorem live_of_no {reply : Reply} (o : Outcome h now live acquiring (.ok reply) live')
    (no : reply.isYes = false) : ∃ e, live = some e := by
  cases o with
  | taken => cases no
  | occupied => exact ⟨_, rfl⟩
  | extended later | absent later | foreign later => exact absurd rfl later

/-- A token that a question is not answered yes on is of another owner. -/
theorem foreign_of_no {stored : String} {t : Option Nat} {reply : Reply}
    (o : Outcome h now (some ⟨.text stored, t⟩) stage (.ok reply) live')
    (later : stage ≠ acquiring) (no : reply.isYes = false) : stage.owns h stored = false := by
  cases o with
  | occupied => exact absurd rfl later
  | extended | released => cases no
  | foreign later other => exact other

/-- An error leaves the key. -/
theorem unchanged_of_error {e : StoreError} (o : Outcome h now live stage (.error e) live') :
    live' = live := by
  cases o
  rfl

/-- Every answer but a yes leaves the key. -/
theorem unchanged_of_no (o : Outcome h now live stage answer live')
    (no : ∀ reply, answer = .ok reply → reply.isYes = false) : live' = live := by
  cases o with
  | taken | extended | released => cases no _ rfl
  | occupied | absent | foreign | failed => rfl

/-- The release of a key that holds a token does not fail. -/
theorem not_failed {stored : String} {t : Option Nat} {e : StoreError}
    (o : Outcome h now (some ⟨.text stored, t⟩) releasing (.error e) live') : False := by
  cases o with
  | failed cause =>
    rcases cause with ⟨entry, same, other⟩ | ⟨releases, -⟩
    · obtain rfl := Option.some.inj same
      exact other stored rfl
    · exact releases rfl

/-- An answer that gives a lease leaves the token of the handle in the key for so long. -/
theorem granted (o : Outcome h now live stage answer live') (grants : stage.grants answer = true) :
    live' = some ⟨.text h.token.text, some (now + h.span)⟩ := by
  obtain ⟨reply, rfl, yes⟩ := isYes_of_grants grants
  cases o with
  | taken => rfl
  | extended later lasting owns => rw [eq_of_owns_of_grants grants owns]
  | released => cases grants
  | occupied => cases yes
  | absent => cases yes
  | foreign => cases yes

/-- A question that is not about the token in the key leaves it. -/
theorem unchanged {stored : String} {t : Option Nat}
    (o : Outcome h now (some ⟨.text stored, t⟩) stage answer live')
    (other : stage.owns h stored = false) : live' = some ⟨.text stored, t⟩ := by
  cases o with
  | occupied | foreign | failed => rfl
  | extended later lasting owns =>
    rw [other] at owns
    cases owns
  | released =>
    rw [owns_text] at other
    cases other

/-- A question for a new lease is answered yes where the handle's own token is live. -/
theorem extended_of_own {t : Option Nat}
    (o : Outcome h now (some ⟨.text h.token.text, t⟩) stage answer live')
    (later : stage ≠ acquiring) (lasting : stage ≠ releasing)
    (fits : h.leaseMillis ≤ 9223372036854775807) :
    answer = .ok (.ofBool true) ∧ live' = some ⟨.text h.token.text, some (now + h.span)⟩ := by
  cases o with
  | occupied => exact absurd rfl later
  | extended => exact ⟨rfl, rfl⟩
  | released => exact absurd rfl lasting
  | foreign _ other =>
    rw [owns_text] at other
    cases other
  | failed cause =>
    rcases cause with ⟨entry, same, text⟩ | ⟨-, large⟩
    · obtain rfl := Option.some.inj same
      exact absurd rfl (text _)
    · exact absurd fits (Nat.not_le_of_lt large)

/-- A handle that asks for a new lease of its own token where this is live, and gets none, gets
an error. -/
theorem failed_of_own {t : Option Nat}
    (o : Outcome h now (some ⟨.text h.token.text, t⟩) stage answer live')
    (renewal : stage = renewing false ∨ stage = extending)
    (refused : stage.grants answer = false) :
    (∃ e, answer = .error e) ∧ live' = some ⟨.text h.token.text, t⟩ := by
  rcases answer with e | reply
  · exact ⟨⟨e, rfl⟩, o.unchanged_of_error⟩
  · have no : reply.isYes = false := by rcases renewal with rfl | rfl <;> exact refused
    have other := o.foreign_of_no (by rcases renewal with rfl | rfl <;> simp) no
    rw [owns_text] at other
    cases other

/-- A release deletes the key where the handle's own token is live. -/
theorem released_of_own {t : Option Nat}
    (o : Outcome h now (some ⟨.text h.token.text, t⟩) releasing answer live') :
    answer = .ok (.ofBool true) ∧ live' = none := by
  rcases answer with e | reply
  · exact o.not_failed.elim
  · cases o with
    | released => exact ⟨rfl, rfl⟩
    | extended _ lasting => exact absurd rfl lasting
    | foreign _ other =>
      rw [owns_text] at other
      cases other

/-- A release is answered yes only where the handle's own token is live, and deletes the key then. -/
theorem own_of_released {reply : Reply} (o : Outcome h now live releasing (.ok reply) live')
    (yes : reply.isYes = true) :
    (∃ t, live = some ⟨.text h.token.text, t⟩) ∧ live' = none := by
  cases o with
  | released => exact ⟨⟨_, rfl⟩, rfl⟩
  | extended _ lasting => exact absurd rfl lasting
  | absent | foreign => cases yes

end Outcome

/-- A question that is not answered yes leaves every key as clients see it. -/
theorem live?_eval_of_no {h : Handle} {stage : Stage} {k : Keyspace} {now : Nat}
    (no : ∀ reply, (k.eval now (stage.request h)).1 = .ok reply → reply.isYes = false)
    (key : String) : (k.eval now (stage.request h)).2.live? now key = k.live? now key := by
  by_cases own : key = h.key
  · subst own
    exact (stage.outcome h k now).unchanged_of_no no
  · exact k.live?_eval_of_notMem now (by simpa [keys_request] using own)

end Stage

end Lock

end Turnstile
