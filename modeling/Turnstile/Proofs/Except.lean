/-!
# Steps that can fail

What the outcome of a step and the one after it says of either : both succeeded
(`bind_eq_ok_iff`), or no error that neither gives came of them (`bind_ne_error`). Where steps
do not depend on each other and what is made of their results tells the results, its success says
of each step with what it succeeded (`read_three_eq_ok_iff`).
-/

namespace Turnstile

variable {ε α β γ δ : Type} {x : Except ε α} {f : α → Except ε β}

theorem bind_eq_ok_iff {b : β} : (x >>= f) = .ok b ↔ ∃ a, x = .ok a ∧ f a = .ok b := by
  cases x <;> simp [bind, Except.bind]

theorem pure_eq_ok_iff {a b : α} : (pure a : Except ε α) = .ok b ↔ a = b := by
  simp [pure, Except.pure]

theorem bind_ne_error {e : ε} (first : x ≠ .error e) (rest : ∀ a, f a ≠ .error e) :
    (x >>= f) ≠ .error e := by
  rcases x with e' | a
  · exact fun same => first (congrArg Except.error (Except.error.inj same))
  · exact rest a

/-! ## Steps beside each other -/

section Beside

variable {y : Except ε β} {z : Except ε γ} {a : α} {b : β} {c : γ}

theorem read_one_eq_ok_iff {make : α → δ} (inj : ∀ {a a'}, make a = make a' → a = a') :
    (do return make (← x)) = .ok (make a) ↔ x = .ok a := by
  simp only [bind_eq_ok_iff, pure_eq_ok_iff]
  constructor
  · rintro ⟨_, first, same⟩
    obtain rfl := inj same
    exact first
  · exact fun first => ⟨_, first, rfl⟩

theorem read_two_eq_ok_iff {make : α → β → δ}
    (inj : ∀ {a b a' b'}, make a b = make a' b' → a = a' ∧ b = b') :
    (do return make (← x) (← y)) = .ok (make a b) ↔ x = .ok a ∧ y = .ok b := by
  simp only [bind_eq_ok_iff, pure_eq_ok_iff]
  constructor
  · rintro ⟨_, first, _, second, same⟩
    obtain ⟨rfl, rfl⟩ := inj same
    exact ⟨first, second⟩
  · exact fun ⟨first, second⟩ => ⟨_, first, _, second, rfl⟩

theorem read_three_eq_ok_iff {make : α → β → γ → δ}
    (inj : ∀ {a b c a' b' c'}, make a b c = make a' b' c' → a = a' ∧ b = b' ∧ c = c') :
    (do return make (← x) (← y) (← z)) = .ok (make a b c) ↔
      x = .ok a ∧ y = .ok b ∧ z = .ok c := by
  simp only [bind_eq_ok_iff, pure_eq_ok_iff]
  constructor
  · rintro ⟨_, first, _, second, _, third, same⟩
    obtain ⟨rfl, rfl, rfl⟩ := inj same
    exact ⟨first, second, third⟩
  · exact fun ⟨first, second, third⟩ => ⟨_, first, _, second, _, third, rfl⟩

end Beside

end Turnstile
