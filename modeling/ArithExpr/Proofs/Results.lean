import Mathlib.Tactic.Common

/-!
# Results that follow one another

Work that can fail is done in steps, and the first failure ends it.  `ok_bind` goes on
behind a step that has succeeded; `bind_eq_ok_iff` takes a whole apart that has, and
`bind_eq_error_iff` finds the step that an error comes from.
-/

namespace ArithExpr

section Steps

variable {ε α β : Type} {first : Except ε α} {next : α → Except ε β}

/-- What follows a success goes on with it. -/
lemma ok_bind (a : α) (next : α → Except ε β) : ((.ok a : Except ε α) >>= next) = next a :=
  rfl

/-- Work in two steps succeeds when both succeed. -/
lemma bind_eq_ok_iff {b : β} :
    (first >>= next) = .ok b ↔ ∃ a, first = .ok a ∧ next a = .ok b := by
  cases first <;> simp [bind, Except.bind]

/-- An error that no second step gives comes from the first. -/
lemma bind_eq_error_iff {e : ε} (hnext : ∀ a, next a ≠ .error e) :
    first.bind next = .error e ↔ first = .error e := by
  cases first with
  | error found => simp only [Except.bind, Except.error.injEq]
  | ok a => exact ⟨fun h => absurd h (hnext a), nofun⟩

end Steps

/-- Naming the errors of a step leaves its successes as they are. -/
lemma mapError_eq_ok_iff {α ε ε' : Type} {f : ε → ε'} {x : Except ε α} {a : α} :
    Except.mapError f x = .ok a ↔ x = .ok a := by
  cases x <;> simp [Except.mapError]

end ArithExpr
