import Mathlib.Data.Nat.Basic
import Turnstile.Identity.Serial

/-!
# The numbers that a counter deals out

Callers share a counter. A draw exchanges the word in the counter for the one after it, in one step,
and makes its number of the word that was there before. The rule of what comes after a word is thus
used twice, once for the word that stays behind and once for the number, and both come to the same
(`SerialCounter.next_eq_exchange`).

Modulo the length of the cycle a word counts the draws before it (`SerialCounter.Dealt`), and
every draw counts one more (`SerialCounter.Dealt.exchange`). `SerialCounter.draws_cycle` : whoever
draws when, the numbers go round from one up to the limit, and no addition leaves 64 bits.
-/

namespace Turnstile.SerialCounter

variable {ι : Type}

/-! ## Draws -/

/-- The word in a counter, and the counter with the word after it in its place. -/
def exchange (c : SerialCounter) : UInt64 × SerialCounter :=
  (c.current, { c with current := after c.limit c.current })

/-- The number that a caller makes of the word it was given. -/
def number (limit previous : UInt64) : UInt64 :=
  if max limit 1 ≤ previous then 1 else previous + 1

theorem next_eq_exchange (c : SerialCounter) :
    c.next = (number c.limit c.exchange.1, c.exchange.2) := rfl

/-- What callers draw one after the other, each with its number, and the counter after them. -/
def draws : List ι → SerialCounter → List (ι × UInt64) × SerialCounter
  | [], c => ([], c)
  | caller :: callers, c =>
    let (previous, rest) := c.exchange
    let (later, rest) := draws callers rest
    ((caller, number c.limit previous) :: later, rest)

/-- Who draws makes no difference to the numbers. -/
theorem draws_eq_take (callers : List ι) (c : SerialCounter) :
    ((draws callers c).1.map Prod.snd, (draws callers c).2) = c.take callers.length := by
  induction callers generalizing c with
  | nil => rfl
  | cons caller callers ih =>
    simp only [draws, List.map_cons, List.length_cons, take, next_eq_exchange, ← ih]

theorem map_fst_draws (callers : List ι) (c : SerialCounter) :
    (draws callers c).1.map Prod.fst = callers := by
  induction callers generalizing c with
  | nil => rfl
  | cons caller callers ih => simp only [draws, List.map_cons, ih]

/-! ## The cycle -/

/-- How many numbers there are before they start again. -/
def cycle (limit : UInt64) : Nat := max limit.toNat 1

theorem cycle_pos (limit : UInt64) : 0 < cycle limit := Nat.le_max_right ..

theorem cycle_lt (limit : UInt64) : cycle limit < UInt64.size :=
  Nat.max_lt.2 ⟨limit.toNat_lt, by decide⟩

theorem toNat_max (limit : UInt64) : (max limit 1).toNat = cycle limit := by
  change (if limit ≤ 1 then 1 else limit).toNat = _
  split
  · next small => exact (Nat.max_eq_right (UInt64.le_iff_toNat_le.1 small)).symm
  · next large =>
    have above := UInt64.lt_iff_toNat_lt.1 (UInt64.not_le.1 large)
    exact (Nat.max_eq_left (Nat.le_of_lt above)).symm

/-- A word below the limit can be counted up within 64 bits. -/
theorem toNat_add_one {limit word : UInt64} (below : ¬max limit 1 ≤ word) :
    (word + 1).toNat = word.toNat + 1 := by
  rw [UInt64.le_iff_toNat_le, toNat_max] at below
  have bound := cycle_lt limit
  rw [UInt64.toNat_add]
  exact Nat.mod_eq_of_lt (Nat.lt_of_le_of_lt (Nat.not_le.1 below) bound)

/-- The number after a word of the cycle is one more than what the word is modulo its length. -/
theorem toNat_number {limit previous : UInt64} (within : previous.toNat ≤ cycle limit) :
    (number limit previous).toNat = previous.toNat % cycle limit + 1 := by
  unfold number
  split
  · next last =>
    rw [UInt64.le_iff_toNat_le, toNat_max] at last
    rw [Nat.le_antisymm within last, Nat.mod_self]
    rfl
  · next below =>
    have less := below
    rw [UInt64.le_iff_toNat_le, toNat_max, Nat.not_le] at less
    rw [toNat_add_one below, Nat.mod_eq_of_lt less]

/-- A counter that dealt out so many numbers since it was new. -/
structure Dealt (limit : UInt64) (count : Nat) (c : SerialCounter) : Prop where
  limit_eq : c.limit = limit
  within : c.current.toNat ≤ cycle limit
  place : c.current.toNat % cycle limit = count % cycle limit

namespace Dealt

variable {limit : UInt64} {count : Nat} {c : SerialCounter}

theorem upTo (limit : UInt64) : Dealt limit 0 (.upTo limit) := ⟨rfl, Nat.zero_le _, rfl⟩

/-- The number that is drawn tells how many were drawn before it. -/
theorem toNat_number (dealt : Dealt limit count c) :
    (number c.limit c.exchange.1).toNat = count % cycle limit + 1 := by
  rw [dealt.limit_eq, exchange, SerialCounter.toNat_number dealt.within, dealt.place]

theorem exchange (dealt : Dealt limit count c) : Dealt limit (count + 1) c.exchange.2 := by
  -- the word that stays behind is the number that is told
  have word : c.exchange.2.current.toNat = count % cycle limit + 1 := dealt.toNat_number
  refine ⟨dealt.limit_eq, ?_, ?_⟩
  · rw [word]
    exact Nat.mod_lt _ (cycle_pos limit)
  · rw [word, Nat.mod_add_mod]

theorem draws (dealt : Dealt limit count c) (callers : List ι) :
    Dealt limit (count + callers.length) (draws callers c).2 := by
  induction callers generalizing count c with
  | nil => exact dealt
  | cons caller callers ih =>
    rw [List.length_cons, Nat.add_comm callers.length, ← Nat.add_assoc]
    exact ih dealt.exchange

theorem toNat_draws (dealt : Dealt limit count c) (callers : List ι) {n : Nat} {d : ι × UInt64}
    (drawn : (SerialCounter.draws callers c).1[n]? = some d) :
    d.2.toNat = (count + n) % cycle limit + 1 := by
  induction callers generalizing count c n with
  | nil => cases drawn
  | cons caller callers ih =>
    cases n with
    | zero =>
      obtain rfl := Option.some.inj drawn
      exact dealt.toNat_number
    | succ n =>
      rw [Nat.add_comm n, ← Nat.add_assoc]
      exact ih dealt.exchange drawn

end Dealt

/-- Places of a cycle that are less than its length apart are different. -/
theorem mod_ne_mod {m i j : Nat} (before : i < j) (near : j < i + m) : i % m ≠ j % m := by
  intro same
  have whole : (j - i) % m = 0 := Nat.sub_mod_eq_zero_of_mod_eq same.symm
  rw [Nat.mod_eq_of_lt (by omega)] at whole
  omega

/-- Whatever the limit and in whatever order callers draw, they get what the counter deals out, and
each draw gives its caller the number one more than the count of earlier draws modulo the length `m`
of the cycle. So all numbers are from one to `m`, and draws that are less than `m` apart give
different ones. The word that a draw leaves in the counter is the number it gives, and no word that
is counted up leaves 64 bits. -/
theorem draws_cycle (limit : UInt64) (callers : List ι) :
    (draws callers (upTo limit)).1.map Prod.fst = callers ∧
      let m := max limit.toNat 1
      let drawn := (draws callers (upTo limit)).1
      drawn.map Prod.snd = ((upTo limit).take callers.length).1 ∧
      (∀ n d, drawn[n]? = some d → d.2.toNat = n % m + 1) ∧
      (∀ d ∈ drawn, 1 ≤ d.2.toNat ∧ d.2.toNat ≤ m) ∧
      (∀ i j d d', drawn[i]? = some d → drawn[j]? = some d' → i < j → j < i + m → d.2 ≠ d'.2) ∧
      ∀ earlier : List ι,
        let c := (draws earlier (upTo limit)).2
        c.exchange.2.current = number limit c.exchange.1 ∧
          (¬max limit 1 ≤ c.current → (c.current + 1).toNat = c.current.toNat + 1) := by
  refine ⟨map_fst_draws callers _, ?_⟩
  intro m drawn
  have fresh := Dealt.upTo limit
  have numbers : ∀ n d, drawn[n]? = some d → d.2.toNat = n % m + 1 := by
    intro n d at_n
    have number := fresh.toNat_draws callers at_n
    rwa [Nat.zero_add] at number
  have told := congrArg Prod.fst (draws_eq_take callers (.upTo limit))
  refine ⟨told, numbers, ?range, ?window, ?bits⟩
  case range =>
    intro d mem
    obtain ⟨n, at_n⟩ := List.mem_iff_getElem?.1 mem
    rw [numbers n d at_n]
    exact ⟨Nat.le_add_left .., Nat.mod_lt n (cycle_pos limit)⟩
  case window =>
    intro i j d d' at_i at_j before near same
    have same := congrArg UInt64.toNat same
    rw [numbers i d at_i, numbers j d' at_j] at same
    exact mod_ne_mod before near (Nat.add_right_cancel same)
  case bits =>
    intro earlier c
    have dealt : Dealt limit _ c := fresh.draws earlier
    exact ⟨congrArg (number · c.current) dealt.limit_eq, toNat_add_one⟩

theorem draws_cycle_secondRound :
    let drawn := (draws ["a", "b", "a", "b", "a", "b"] (upTo 3)).1
    drawn[3]? = some ("b", 1) ∧ drawn[5]? = some ("b", 3) ∧ (1 : UInt64) ≠ 3 := by
  intro drawn
  have fourth : drawn[3]? = some ("b", 1) := by rfl
  have sixth : drawn[5]? = some ("b", 3) := by rfl
  obtain ⟨-, -, -, -, differ, -⟩ := draws_cycle 3 ["a", "b", "a", "b", "a", "b"]
  exact ⟨fourth, sixth, differ 3 5 _ _ fourth sixth (by decide) (by decide)⟩

/-- Callers draw from a counter of the greatest limit, and of none. -/
example : (draws ["a", "b", "a"] (upTo 18446744073709551615)).1 = [("a", 1), ("b", 2), ("a", 3)] ∧
    (draws ["a", "b", "a"] (upTo 0)).1 = [("a", 1), ("b", 1), ("a", 1)] := by decide

end Turnstile.SerialCounter
