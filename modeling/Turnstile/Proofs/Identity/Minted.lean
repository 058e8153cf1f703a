import Turnstile.Proofs.Identity.Owner
import Turnstile.Proofs.Store.Effect

/-!
# Whose lock a thread may enter again

A thread enters a lock again if the stored text begins with the thread's own owner, `host:thread:`.
The thread and the serial number of a token have no colons, but its host may have any. So the end of
an owner falls on the last colon of a stored token, if the token is of the same host and thread, or
it falls before that, if the stored host goes on from the owner (`Token.Precedes`).

`minted_owner` : these two cases are all, for any two tokens that sources make, and a host without
colons goes on from no owner. `sameOwner_hostGoesOn` is a token of the second case.
-/

namespace Turnstile

/-- Where a row up to and with a separator is the front of a row that has just one separator, it
ends there. -/
theorem eq_of_append_separator {c : Char} {x y z w : List Char} (hy : c ∉ y) (hw : c ∉ w)
    (h : x ++ c :: z = y ++ c :: w) : x = y := by
  rcases List.append_eq_append_iff.1 h with ⟨rest, rfl, after⟩ | ⟨rest, rfl, after⟩
  · cases rest with
    | nil => exact (List.append_nil x).symm
    | cons d rest =>
      obtain ⟨rfl, -⟩ := List.cons.inj after
      simp at hy
  · cases rest with
    | nil => exact List.append_nil y
    | cons d rest =>
      obtain ⟨rfl, rfl⟩ := List.cons.inj after
      simp at hw

namespace Token

/-- The host of a token, with the colon after it, begins with the owner of another token. -/
def Precedes (a b : Token) : Prop := startsWith (b.host ++ ":") a.owner

instance (a b : Token) : Decidable (a.Precedes b) := inferInstanceAs (Decidable (_ = true))

variable {a b : Token}

theorem sameOwner_of_precedes (goesOn : a.Precedes b) : a.sameOwner b.text := by
  simp only [Precedes, sameOwner, startsWith, List.isPrefixOf_iff_prefix] at goesOn ⊢
  refine goesOn.trans ?_
  simp [toList_text]

/-- The text of a token begins with the owner of another one exactly if both have the same host and
thread, or if its host goes on from the owner. -/
theorem sameOwner_text_iff_or (ha : ':' ∉ a.thread.toList) (hb : ':' ∉ b.thread.toList) :
    a.sameOwner b.text ↔ a.host = b.host ∧ a.thread = b.thread ∨ a.Precedes b := by
  have serial : ':' ∉ (toString b.serial.toNat).toList := colon_notMem_toString _
  constructor
  · intro owns
    simp only [sameOwner, Precedes, startsWith, List.isPrefixOf_iff_prefix] at owns ⊢
    obtain ⟨rest, same⟩ := owns
    have host : (b.host ++ ":").toList = b.host.toList ++ [':'] := by simp
    rw [toList_text, List.append_cons, ← host] at same
    rcases List.append_eq_append_iff.1 same with ⟨more, front, -⟩ | ⟨more, front, back⟩
    · exact .inr ⟨more, front.symm⟩
    · -- the owner ends behind the host, so at the last colon or at once
      rcases List.eq_nil_or_concat more with rfl | ⟨more, last, rfl⟩
      · exact .inr ⟨[], by simpa using front⟩
      · rw [toList_owner, host] at front
        obtain ⟨before, rfl⟩ : a.host.toList ++ ':' :: a.thread.toList =
            b.host.toList ++ ':' :: more ∧ ':' = last := by
          have ends : (a.host.toList ++ ':' :: a.thread.toList) ++ [':'] =
              (b.host.toList ++ ':' :: more) ++ [last] := by simpa using front
          exact (List.append_inj' ends rfl).imp id fun same => (List.cons.inj same).1
        have thread : more = b.thread.toList :=
          eq_of_append_separator hb serial (by simpa using back.symm)
        rw [thread] at before
        obtain ⟨host, thread⟩ := split_last_separator ha hb before
        exact .inl ⟨String.toList_inj.1 host, String.toList_inj.1 thread⟩
  · rintro (⟨host, thread⟩ | goesOn)
    · have owner : a.owner = b.owner := by rw [owner, owner, host, thread]
      rw [sameOwner, owner]
      exact b.sameOwner_text
    · exact sameOwner_of_precedes goesOn

/-- A host without colons goes on from no owner, which has two. -/
theorem not_precedes (host : ':' ∉ b.host.toList) : ¬a.Precedes b := by
  simp only [Precedes, startsWith, List.isPrefixOf_iff_prefix]
  rintro ⟨rest, same⟩
  have colons := congrArg (List.count ':') same
  have none := List.count_eq_zero.2 host
  simp [toList_owner, none] at colons
  omega

end Token

/-- The request of a thread to enter a lock again. -/
def Token.reentry (t : Token) (key : String) (millis : Nat) : Request :=
  Command.reenter.request [key] [t.owner, Text.Decimal.ofNat millis]

/-- A thread may enter a lock again exactly if the stored text is of its owner. -/
theorem Keyspace.reentry_iff {k : Keyspace} {now millis : Nat} {key stored : String}
    {expiry : Option Nat} (live : k.live? now key = some ⟨.text stored, expiry⟩)
    (positive : 1 ≤ millis) (fits : millis ≤ 9223372036854775807) (t : Token) :
    (k.eval now (t.reentry key millis)).1 = .ok (.ofBool true) ↔ t.sameOwner stored := by
  have asked : Action.ofRequest (t.reentry key millis) =
      .ok (.reenter key t.owner (Time.ofMillis millis)) :=
    Action.ofRequest_eq_reenter_iff.2 ⟨rfl, rfl, rfl, Request.lease_of_le rfl positive fits⟩
  rw [k.fst_eval now asked rfl, live, Action.effect, Action.extension, Token.sameOwner]
  by_cases owns : startsWith stored t.owner <;> simp [owns, Reply.ofBool]

/-- Tokens that were made for threads of any processes on any hosts have the same text exactly if
they are of the same host, process, thread and serial number. A thread may enter again what a token
locks exactly if the token is of the same host, process and thread, or if its host, with the colon
after it, begins with the owner of the thread; and a host without colons never does. -/
theorem minted_owner (s s' : TokenSource) (thread thread' : Nat) (serial serial' : UInt64) :
    let a := s.token thread serial
    let b := s'.token thread' serial'
    let same := a.host = b.host ∧ a.thread = b.thread
    (a.text = b.text ↔ same ∧ a.serial = b.serial) ∧
      (same ↔ s.host = s'.host ∧ s.process = s'.process ∧ thread = thread') ∧
      (a.sameOwner b.text ↔ same ∨ a.Precedes b) ∧ (':' ∉ s'.host.toList → ¬a.Precedes b) ∧
      ∀ (k : Keyspace) now key expiry millis,
        k.live? now key = some ⟨.text b.text, expiry⟩ → 1 ≤ millis → millis ≤ 9223372036854775807 →
        ((k.eval now (a.reentry key millis)).1 = .ok (.ofBool true) ↔ same ∨ a.Precedes b) := by
  intro a b same
  have ha := s.colon_notMem_thread thread serial
  have hb := s'.colon_notMem_thread thread' serial'
  have owner := Token.sameOwner_text_iff_or ha hb
  have colonless (host : ':' ∉ s'.host.toList) : ¬a.Precedes b := Token.not_precedes host
  refine ⟨⟨fun text => ?_, ?_⟩, ?_, owner, colonless, ?_⟩
  · have eq : a = b := Token.text_injective ha hb text
    exact ⟨⟨congrArg Token.host eq, congrArg Token.thread eq⟩, congrArg Token.serial eq⟩
  · rintro ⟨⟨host, thread⟩, serial⟩
    simp only [Token.text, Token.owner, host, thread, serial]
  · exact and_congr_right fun _ => TokenSource.thread_eq_iff
  · intro k now key expiry millis live positive fits
    rw [Keyspace.reentry_iff live positive fits, owner]

/-- A host that goes on from the owner of another : its token is taken for one of the other's
thread. -/
theorem sameOwner_hostGoesOn :
    let a := TokenSource.token ⟨"h", 1⟩ 1 1
    let b := TokenSource.token ⟨"h:1.1", 1⟩ 2 2
    a.sameOwner b.text = true ∧ ¬(a.host = b.host ∧ a.thread = b.thread) := by
  decide

theorem minted_owner_hostGoesOn :
    let a := TokenSource.token ⟨"h", 1⟩ 1 1
    let b := TokenSource.token ⟨"h:1.1", 1⟩ 2 2
    let k := Keyspace.put {} "x" ⟨.text b.text, some 30⟩
    k.live? 0 "x" = some ⟨.text b.text, some 30⟩ ∧
      (k.eval 0 (a.reentry "x" 30000)).1 = .ok (.ofBool true) := by
  intro a b k
  have live : k.live? 0 "x" = some ⟨.text b.text, some 30⟩ := by rfl
  obtain ⟨-, -, -, -, enters⟩ := minted_owner ⟨"h", 1⟩ ⟨"h:1.1", 1⟩ 1 2 1 2
  have goesOn : a.Precedes b := by decide
  exact ⟨live, (enters k 0 "x" _ 30000 live (by decide) (by decide)).2 (.inr goesOn)⟩

end Turnstile
