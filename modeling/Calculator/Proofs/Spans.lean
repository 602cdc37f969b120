import Mathlib.Data.List.TakeWhile

/-!
# Spans of lists

The scanner and the conversion to postfix form both cut a list at the first element without a
property. These lemmas give the two parts of a list that is already known to be cut there, and what
is kept of a list where the first part is dropped.
-/

namespace Calculator

variable {α : Type} {p : α → Bool} {body rest : List α}

/-- The longest beginning with a property ends where the property fails first. -/
theorem takeWhile_span (hbody : ∀ x ∈ body, p x = true) (hrest : ∀ x ∈ rest.head?, p x = false) :
    (body ++ rest).takeWhile p = body := by
  rw [List.takeWhile_append_of_pos hbody]
  cases rest <;> simp_all

/-- What stands behind the longest beginning with a property. -/
theorem dropWhile_span (hbody : ∀ x ∈ body, p x = true) (hrest : ∀ x ∈ rest.head?, p x = false) :
    (body ++ rest).dropWhile p = rest := by
  rw [List.dropWhile_append_of_pos hbody]
  cases rest <;> simp_all

/-- A list is cut where a property fails first. -/
theorem exists_span (p : α → Bool) (xs : List α) :
    ∃ body rest, xs = body ++ rest ∧ (∀ x ∈ body, p x = true) ∧
      ∀ x ∈ rest.head?, p x = false := by
  refine ⟨xs.takeWhile p, xs.dropWhile p, List.takeWhile_append_dropWhile.symm,
    fun x hx => List.mem_takeWhile_imp hx, fun x hx => ?_⟩
  have hhead := List.head?_dropWhile_not p xs
  rwa [Option.mem_def.mp hx] at hhead

/-- What is kept of a list is what is kept behind a beginning without the property. -/
theorem filter_append_of_forall (hbody : ∀ x ∈ body, p x = false) (rest : List α) :
    (body ++ rest).filter p = rest.filter p := by
  have hnone : body.filter p = [] := by simpa [List.filter_eq_nil_iff] using hbody
  rw [List.filter_append, hnone, List.nil_append]

end Calculator
