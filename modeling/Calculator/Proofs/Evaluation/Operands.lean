import Calculator.Proofs.Evaluation.Cause

/-!
# Operands of an expression

The stages of an evaluation ask a source of variables for the operands of the expression and for
nothing else. If they have a value, every operand stands for a number, and there is one operand more
than there are binary operators.
-/

namespace Calculator

open Token

variable {α : Type} {A : Arithmetic α} {options : Options} {source : Variables α}
  {expression : String} {x : α}

/-- The operands of the postfix form of an expression are those of the expression. -/
theorem mem_form_iff {form : List Token}
    (harrange : Postfix.arrange options.strict []
      (resolve options (Expression.tokens options expression)) = .ok form)
    {token : Token} (hoperand : token.isOperand = true) :
    token ∈ form ↔ token ∈ Expression.tokens options expression := by
  have hform := (Postfix.arranges_of_arrange harrange).filter_isOperand nofun
  rw [resolve, filter_isOperand_resolveFrom] at hform
  have hiff := congrArg (token ∈ ·) hform
  simpa [hoperand] using hiff

/-- If the stages have a value, every operand of the expression stands for a number. -/
theorem means_of_result_evaluateStages
    (hvalue : (evaluateStages A options source expression).result = .ok x) {token : Token}
    (hmem : token ∈ Expression.tokens options expression) (hkind : token.kind = .operand) :
    source.Means A token.text := by
  obtain ⟨form, harrange, hrun⟩ := exists_run_of_result_evaluateStages hvalue
  have hoperand : token.isOperand = true := by simp [isOperand, hkind]
  obtain ⟨kind, text, position⟩ := token
  cases hkind
  obtain ⟨_, _, hreads⟩ := Stack.reads_of_run hrun _
    (List.mem_map_of_mem ((mem_form_iff harrange hoperand).mpr hmem))
  exact hreads.means

/-- If the stages have a value, there is one operand more than there are binary operators. -/
theorem countP_of_result_evaluateStages
    (hvalue : (evaluateStages A options source expression).result = .ok x) :
    1 + (resolve options (Expression.tokens options expression)).countP isBinary =
      (Expression.tokens options expression).countP isOperand := by
  obtain ⟨form, harrange, hrun⟩ := exists_run_of_result_evaluateStages hvalue
  have hlength := Postfix.length_run_form (isStandard_resolve options expression) harrange hrun
  rw [List.length_singleton] at hlength
  rw [hlength, List.countP_eq_length_filter, List.countP_eq_length_filter, resolve,
    filter_isOperand_resolveFrom]

/-- Two sources in which the operands of an expression have the same values give the same
outcome. -/
theorem result_evaluateStages_congr {other : Variables α}
    (hsame : ∀ token ∈ Expression.tokens options expression, token.kind = .operand →
      source token.text = other token.text) :
    (evaluateStages A options source expression).result =
      (evaluateStages A options other expression).result := by
  rw [result_evaluateStages_eq_bind, result_evaluateStages_eq_bind]
  cases hform : Postfix.ofTokens options
      (resolve options (Expression.tokens options expression)) with
  | error failure => rfl
  | ok form =>
    have hterms : form.map (Term.ofToken source) = form.map (Term.ofToken other) := by
      refine List.map_congr_left fun token htoken => ?_
      have hlookup : Term.lookup? source token = Term.lookup? other token := by
        unfold Term.lookup?
        split
        · rename_i hkind
          have hoperand : token.isOperand = true := by simp [isOperand, hkind]
          exact hsame token ((mem_form_iff hform hoperand).mp htoken) hkind
        · rfl
      rw [Term.ofToken, Term.ofToken, hlookup]
    rw [ok_bind, ok_bind, hterms]

end Calculator
