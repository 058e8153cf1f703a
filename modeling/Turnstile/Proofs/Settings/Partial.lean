import Turnstile.Proofs.Json.Overlay
import Turnstile.Proofs.Settings.Normal

/-!
# Settings of which a text names some

A text of settings only names what it overrides. `Settings.ofTree?` are the settings of an object :
each field has the value that the object gives it, and its default where the object says nothing of
it, in each of the three records on its own. There are none if a known field is given twice or a
value is of the wrong kind.

Whatever text such an object has, in whatever order its members come and whatever else it holds, it
is read as these settings, and they are accepted just if they are valid (`Settings.ofJson_overlay`).
-/

namespace Turnstile

open Json

/-! ## Lengths of time -/

/-- A length of time as a number of milliseconds. -/
def Json.Tree.millis? (t : Json.Tree) : Option Nat := t.nat?.map Time.ofMillis

/-- A length of time. -/
def Json.Shape.millis : Shape Nat where
  value? := Json.Tree.millis?
  read := readMillis
  reads said := by
    obtain ⟨n, whole, rfl⟩ := Option.map_eq_some_iff.1 said
    exact (Json.Tree.reads_nat whole).map Time.ofMillis
  blind cs := by rw [readMillis, blind_readNat, readMillis]

/-! ## Settings of locks -/

namespace LockSettings

/-- The settings of locks of an object. -/
def ofTree? (t : Json.Tree) : Option LockSettings := do
  let space ← t.given? "namespace" Json.Tree.text?
  let lease ← t.given? "lease_ms" Json.Tree.millis?
  let poll ← t.given? "poll_interval_ms" Json.Tree.millis?
  let wait ← t.given? "wait_timeout_ms" Json.Tree.millis?
  let default : LockSettings := {}
  return {
    space := space.getD default.space
    lease := lease.getD default.lease
    poll := poll.getD default.poll
    wait := wait.getD default.wait }

/-- The fields with the shapes of their values. -/
def known : List (KnownField Draft) :=
  [⟨_, "namespace", .text, Draft.space, fun d a => { d with space := some a }, fun _ _ => rfl⟩,
    ⟨_, "lease_ms", .millis, Draft.lease, fun d a => { d with lease := some a }, fun _ _ => rfl⟩,
    ⟨_, "poll_interval_ms", .millis, Draft.poll, fun d a => { d with poll := some a },
      fun _ _ => rfl⟩,
    ⟨_, "wait_timeout_ms", .millis, Draft.wait, fun d a => { d with wait := some a },
      fun _ _ => rfl⟩]

theorem apart_known : known.Pairwise KnownField.Apart := by
  simp only [known, List.pairwise_cons, List.forall_mem_cons]
  refine ⟨⟨?_, ?_, ?_, by simp⟩, ⟨?_, ?_, by simp⟩, ⟨?_, by simp⟩, by simp⟩ <;>
    exact ⟨by decide, fun _ _ => rfl, fun _ _ => rfl⟩

/-- An object that is one of settings is read as these. -/
theorem reads_tree {t : Json.Tree} {l : LockSettings} (given : ofTree? t = some l) :
    Reads read t.write l := by
  simp only [ofTree?, bind, Option.bind_eq_some_iff] at given
  obtain ⟨space, spaceGiven, lease, leaseGiven, poll, pollGiven, wait, waitGiven, made⟩ := given
  have fresh : ∀ f ∈ known, f.get {} = none := by simp [known]
  have some : ∀ f ∈ known, (t.given? f.name f.shape.value?).isSome := by
    simp [known, Shape.text, Shape.millis, spaceGiven, leaseGiven, pollGiven, waitGiven]
  obtain ⟨d, said, reads⟩ := KnownField.reads_tree apart_known (by simp [known]) fresh some
  simp only [known, Shape.text, Shape.millis, List.forall_mem_cons, spaceGiven, leaseGiven,
    pollGiven, waitGiven, Option.some.injEq] at said
  obtain ⟨rfl, rfl, rfl, rfl, -⟩ := said
  obtain rfl := Option.some.inj made
  exact reads rfl

/-- An object of settings. -/
def shape : Shape LockSettings := ⟨ofTree?, read, reads_tree, blind_readRecord⟩

/-- The fields that the objects of settings have. -/
def layout : Layout :=
  .record [("namespace", .value), ("lease_ms", .value), ("poll_interval_ms", .value),
    ("wait_timeout_ms", .value)]

theorem ofTree?_rearranged {t t' : Json.Tree} (r : Rearranged layout t t') :
    ofTree? t = ofTree? t' := by
  have millis := Rearranged.plain Json.Tree.millis?
  rw [ofTree?, r.given? rfl (Rearranged.plain Json.Tree.text?), r.given? rfl millis,
    r.given? rfl millis, r.given? rfl millis, ofTree?]

end LockSettings

/-! ## Settings of queues -/

namespace QueueSettings

/-- The settings of queues of an object. -/
def ofTree? (t : Json.Tree) : Option QueueSettings := do
  let space ← t.given? "namespace" Json.Tree.text?
  let delayedSpace ← t.given? "delayed_namespace" Json.Tree.text?
  let default : QueueSettings := {}
  return {
    space := space.getD default.space
    delayedSpace := delayedSpace.getD default.delayedSpace }

/-- The fields with the shapes of their values. -/
def known : List (KnownField Draft) :=
  [⟨_, "namespace", .text, Draft.space, fun d a => { d with space := some a }, fun _ _ => rfl⟩,
    ⟨_, "delayed_namespace", .text, Draft.delayedSpace,
      fun d a => { d with delayedSpace := some a }, fun _ _ => rfl⟩]

theorem apart_known : known.Pairwise KnownField.Apart := by
  simp only [known, List.pairwise_cons, List.forall_mem_cons]
  exact ⟨⟨⟨by decide, fun _ _ => rfl, fun _ _ => rfl⟩, by simp⟩, by simp⟩

/-- An object that is one of settings is read as these. -/
theorem reads_tree {t : Json.Tree} {q : QueueSettings} (given : ofTree? t = some q) :
    Reads read t.write q := by
  simp only [ofTree?, bind, Option.bind_eq_some_iff] at given
  obtain ⟨space, spaceGiven, delayedSpace, delayedSpaceGiven, made⟩ := given
  have fresh : ∀ f ∈ known, f.get {} = none := by simp [known]
  have some : ∀ f ∈ known, (t.given? f.name f.shape.value?).isSome := by
    simp [known, Shape.text, spaceGiven, delayedSpaceGiven]
  obtain ⟨d, said, reads⟩ := KnownField.reads_tree apart_known (by simp [known]) fresh some
  simp only [known, Shape.text, List.forall_mem_cons, spaceGiven, delayedSpaceGiven,
    Option.some.injEq] at said
  obtain ⟨rfl, rfl, -⟩ := said
  obtain rfl := Option.some.inj made
  exact reads rfl

/-- An object of settings. -/
def shape : Shape QueueSettings := ⟨ofTree?, read, reads_tree, blind_readRecord⟩

/-- The fields that the objects of settings have. -/
def layout : Layout := .record [("namespace", .value), ("delayed_namespace", .value)]

theorem ofTree?_rearranged {t t' : Json.Tree} (r : Rearranged layout t t') :
    ofTree? t = ofTree? t' := by
  have text := Rearranged.plain Json.Tree.text?
  rw [ofTree?, r.given? rfl text, r.given? rfl text, ofTree?]

end QueueSettings

/-! ## Settings -/

namespace Settings

/-- The settings of an object. -/
def ofTree? (t : Json.Tree) : Option Settings := do
  let url ← t.given? "redis_url" Json.Tree.text?
  let lock ← t.given? "lock" LockSettings.ofTree?
  let queue ← t.given? "queue" QueueSettings.ofTree?
  let default : Settings := {}
  return {
    url := url.getD default.url
    lock := lock.getD default.lock
    queue := queue.getD default.queue }

/-- The fields with the shapes of their values. -/
def known : List (KnownField Draft) :=
  [⟨_, "redis_url", .text, Draft.url, fun d a => { d with url := some a }, fun _ _ => rfl⟩,
    ⟨_, "lock", LockSettings.shape, Draft.lock, fun d a => { d with lock := some a },
      fun _ _ => rfl⟩,
    ⟨_, "queue", QueueSettings.shape, Draft.queue, fun d a => { d with queue := some a },
      fun _ _ => rfl⟩]

theorem apart_known : known.Pairwise KnownField.Apart := by
  simp only [known, List.pairwise_cons, List.forall_mem_cons]
  refine ⟨⟨?_, ?_, by simp⟩, ⟨?_, by simp⟩, by simp⟩ <;>
    exact ⟨by decide, fun _ _ => rfl, fun _ _ => rfl⟩

/-- An object that is one of settings is read as these. -/
theorem reads_tree {t : Json.Tree} {s : Settings} (given : ofTree? t = some s) :
    Reads read t.write s := by
  simp only [ofTree?, bind, Option.bind_eq_some_iff] at given
  obtain ⟨url, urlGiven, lock, lockGiven, queue, queueGiven, made⟩ := given
  have fresh : ∀ f ∈ known, f.get {} = none := by simp [known]
  have some : ∀ f ∈ known, (t.given? f.name f.shape.value?).isSome := by
    simp [known, Shape.text, LockSettings.shape, QueueSettings.shape, urlGiven, lockGiven,
      queueGiven]
  obtain ⟨d, said, reads⟩ := KnownField.reads_tree apart_known (by simp [known]) fresh some
  simp only [known, Shape.text, LockSettings.shape, QueueSettings.shape, List.forall_mem_cons,
    urlGiven, lockGiven, queueGiven, Option.some.injEq] at said
  obtain ⟨rfl, rfl, rfl, -⟩ := said
  obtain rfl := Option.some.inj made
  exact reads rfl

/-- The fields that the objects of settings have, and those of the objects in them. -/
def layout : Layout :=
  .record [("redis_url", .value), ("lock", LockSettings.layout), ("queue", QueueSettings.layout)]

theorem ofTree?_rearranged {t t' : Json.Tree} (r : Rearranged layout t t') :
    ofTree? t = ofTree? t' := by
  rw [ofTree?, r.given? rfl (Rearranged.plain Json.Tree.text?),
    r.given? rfl fun _ _ => LockSettings.ofTree?_rearranged,
    r.given? rfl fun _ _ => QueueSettings.ofTree?_rearranged, ofTree?]

/-! ### Validity -/

/-- Settings with an address, with names for all key spaces, two of them for queues, and with a
lease and an interval. -/
structure Valid (s : Settings) : Prop where
  url : Text.isBlank s.url = false
  lockSpace : Text.isBlank s.lock.space = false
  lease : s.lock.lease ≠ 0
  poll : s.lock.poll ≠ 0
  queueSpace : Text.isBlank s.queue.space = false
  delayedSpace : Text.isBlank s.queue.delayedSpace = false
  differ : s.queue.space ≠ s.queue.delayedSpace

/-- A lease of whole milliseconds is long enough if it is not nothing. -/
theorem invalid?_eq_none_iff {s : Settings} (whole : s.written = s) :
    s.invalid? = none ↔ s.Valid := by
  have lease : Time.millis s.lock.lease = 0 ↔ s.lock.lease = 0 := by
    have fits : writtenTime s.lock.lease = s.lock.lease := congrArg (·.lock.lease) whole
    rw [← writtenTime_eq_zero, fits]
  constructor
  · intro valid
    unfold invalid? LockSettings.invalid? QueueSettings.invalid? at valid
    constructor <;> grind
  · rintro ⟨url, lockSpace, long, poll, queueSpace, delayedSpace, differ⟩
    simp [invalid?, LockSettings.invalid?, QueueSettings.invalid?, lease, url, lockSpace, long,
      poll, queueSpace, delayedSpace, differ]

/-- An object that names some of the settings, each at most once, is read in any of its texts as the
settings that have what it names and their defaults in all else. They are accepted just if they are
valid, and are refused for being invalid otherwise. Neither the order of the members nor any unknown
ones make a difference. -/
theorem ofJson_overlay {t : Json.Tree} {s : Settings} (given : ofTree? t = some s)
    (before after : Gap) :
    let text := t.document before after
    parse read text = .ok s ∧ (ofJson text = .ok s ↔ s.Valid) ∧
      (¬s.Valid → ∃ setting, ofJson text = .error (.invalid setting)) ∧
      ∀ t' before' after', Rearranged layout t t' →
        ofJson (t'.document before' after') = ofJson text := by
  intro text
  have parsed {t : Json.Tree} (given : ofTree? t = some s) (before after : Gap) :
      parse read (t.document before after) = .ok s :=
    ((reads_tree given).gap blind_readRecord before).parse_gap after
  have whole : s.written = s := makes_read.parse (parsed given before after)
  have checked : ofJson text = s.checked := by rw [ofJson, parsed given]
  refine ⟨parsed given before after, ?accepted, ?refused, ?rearranged⟩
  case accepted =>
    rw [checked, ← invalid?_eq_none_iff whole, Settings.checked]
    cases s.invalid? <;> simp
  case refused =>
    rw [checked, ← invalid?_eq_none_iff whole, Settings.checked]
    cases s.invalid? <;> simp
  case rearranged =>
    intro t' before' after' r
    rw [checked, ofJson, parsed ((ofTree?_rearranged r).symm.trans given)]

/-- The member that sets the lease, with an escape in its name. -/
def leaseMember : Json.Member Json.Tree where
  name :=
    [.plain 'l', .plain 'e', .plain 'a',
      .unit ⟨⟨'0', 0, by decide⟩, ⟨'0', 0, by decide⟩, ⟨'7', 7, by decide⟩, ⟨'3', 3, by decide⟩⟩,
      .plain 'e', .plain '_', .plain 'm', .plain 's']
  value := .number { whole := 5 }

/-- An object that names the lease of locks only. -/
def leaseOnly : Json.Tree :=
  .object {} [
    { name := [.plain 'l', .plain 'o', .plain 'c', .plain 'k']
      value := .object {} [leaseMember] }]

/-- The same with an unknown member at either level. One of them holds a number of any size and half
a pair of surrogates. -/
def leaseAmongUnknown : Json.Tree :=
  .object {} [
    { name := [.plain 'x']
      gap := { chars := [' '] }
      value := .list {} [
        { value := .number {
            isNegative := true
            whole := 1
            exponent := some {
              mark := 'E'
              sign := some '+'
              digits := { chars := ['9', '9', '9'] } } } },
        { value := .text [
            .unit ⟨⟨'D', 13, by decide⟩, ⟨'8', 8, by decide⟩, ⟨'0', 0, by decide⟩,
              ⟨'a', 10, by decide⟩⟩] }]
      after := { chars := ['\n'] } },
    { name := [.plain 'l', .plain 'o', .plain 'c', .plain 'k']
      value := .object {} [
        leaseMember,
        { name := [.letter '/' '/'], value := .object { chars := [' '] } [] }] }]

theorem rearranged_leaseAmongUnknown : Rearranged layout leaseAmongUnknown leaseOnly := by
  refine .trans (.unknown {} _ (show _ = some "x" by decide) rfl) ?_
  refine .inside {} [] (show _ = some "lock" by decide) rfl ?_
  refine .trans (.permuted {} {} (.swap ..)) ?_
  exact .unknown {} _ (show _ = some "/" by decide) rfl

/-- Both texts are read as the settings with this lease and defaults in all else. -/
theorem ofJson_overlay_leaseAmongUnknown :
    let s : Settings := { lock := { lease := 5 * Time.millisecond } }
    let text :=
      "\x7b\"x\": [-1E+999,\"\\uD80a\"]\n," ++
        "\"lock\":\x7b\"lea\\u0073e_ms\":5,\"\\/\":\x7b \x7d\x7d\x7d "
    let text' := "\x7b\"lock\":\x7b\"lea\\u0073e_ms\":5\x7d\x7d"
    ofTree? leaseAmongUnknown = some s ∧ s.Valid ∧ ofJson text = .ok s ∧ ofJson text' = .ok s := by
  intro s text text'
  have written : leaseAmongUnknown.document {} { chars := [' '] } = text := by decide
  have written' : leaseOnly.document {} {} = text' := by decide
  have given : ofTree? leaseAmongUnknown = some s := by decide
  have valid : s.Valid := by constructor <;> decide
  obtain ⟨-, accepted, -, same⟩ := ofJson_overlay given {} { chars := [' '] }
  have second := same leaseOnly {} {} rearranged_leaseAmongUnknown
  rw [written] at accepted second
  rw [written'] at second
  exact ⟨given, valid, accepted.2 valid, second.trans (accepted.2 valid)⟩

end Settings

end Turnstile
