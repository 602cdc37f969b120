import Calculator.Failure
import Mathlib.Control.Monad.Basic
import Mathlib.Data.List.Forall2

/-!
# Outcomes of stages

The stages of an evaluation hand their outcomes on with `>>=` and `<$>`. These lemmas say what
both do to a value, and which parts a value must have come from.
-/

namespace Calculator

variable {ε α β : Type}

/-- A stage that had a value goes on with it. -/
@[simp] theorem ok_bind (x : α) (next : α → Except ε β) : Except.ok x >>= next = next x := rfl

/-- A stage that failed ends the evaluation. -/
@[simp] theorem error_bind (failure : ε) (next : α → Except ε β) :
    Except.error failure >>= next = .error failure := rfl

/-- Two stages have a value exactly if the second has one on the value of the first. -/
theorem bind_eq_ok_iff {first : Except ε α} {next : α → Except ε β} {y : β} :
    first >>= next = .ok y ↔ ∃ x, first = .ok x ∧ next x = .ok y := by
  cases first <;> simp

/-- The image of an outcome is a value exactly if the outcome is. -/
theorem map_eq_ok_iff {outcome : Except ε α} {f : α → β} {y : β} :
    f <$> outcome = .ok y ↔ ∃ x, outcome = .ok x ∧ f x = y := by
  cases outcome <;> simp

/-- Of two stages the first fails, or the second does on the value of the first. -/
theorem bind_eq_error_iff {first : Except ε α} {next : α → Except ε β} {failure : ε} :
    first >>= next = .error failure ↔
      first = .error failure ∨ ∃ x, first = .ok x ∧ next x = .error failure := by
  cases first <;> simp

/-- Outcomes that are collected are all values exactly if each of them is one. -/
theorem mapM_eq_ok_iff {f : α → Except ε β} {xs : List α} {ys : List β} :
    xs.mapM f = .ok ys ↔ List.Forall₂ (fun x y => f x = .ok y) xs ys := by
  induction xs generalizing ys with
  | nil =>
    rw [List.mapM_nil, List.forall₂_nil_left_iff]
    exact ⟨fun h => (Except.ok.inj h).symm, fun h => h ▸ rfl⟩
  | cons x rest ih =>
    simp only [List.mapM_cons, bind_eq_ok_iff, ih, List.forall₂_cons_left_iff]
    constructor
    · rintro ⟨y, hy, others, hothers, hys⟩
      cases hys
      exact ⟨y, others, hy, hothers, rfl⟩
    · rintro ⟨y, others, hy, hothers, rfl⟩
      exact ⟨y, hy, others, hothers, rfl⟩

variable {ε' : Type} (f : ε → ε')

/-- Two stages with other failures are both stages with other failures. -/
theorem mapError_bind (first : Except ε α) (next : α → Except ε β) :
    (first >>= next).mapError f = first.mapError f >>= fun x => (next x).mapError f := by
  cases first <;> rfl

/-- With other failures the same values remain. -/
theorem mapError_eq_ok_iff {outcome : Except ε α} {x : α} :
    outcome.mapError f = .ok x ↔ outcome = .ok x := by
  cases outcome <;> simp [Except.mapError]

end Calculator
