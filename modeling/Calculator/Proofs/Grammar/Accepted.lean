import Calculator.Proofs.Grammar.Derivable
import Calculator.Proofs.Stages

/-!
# Accepted expressions

No stage of an evaluation checks which tokens stand next to each other. What is checked, under
strictness, are the parentheses and, on the stack, the number of operands. So an expression with a
value may have an operand too many in one place and one too few in another place, but not the one
without the other.
-/

namespace Calculator

open Token

/-- Under strictness an expression that is no literal has a value only if its parentheses are
balanced and as many operands follow another one directly as are missing. Its tokens are derivable
exactly if neither happens. -/
theorem defects_of_evaluate_ok {kind : NumberKind} {options : Options}
    {source : Variables kind.Value} {expression : String} {x : kind.Value}
    (hstrict : options.strict = true)
    (hliteral : kind.arithmetic.literal? expression = none)
    (hvalue : evaluate kind options source expression = .ok x) :
    let tokens := resolve options (Expression.tokens options expression)
    isBalanced 0 tokens = true ∧ juxtaposed false tokens = missing false tokens ∧
      (Derivable tokens ↔ juxtaposed false tokens = 0) := by
  intro tokens
  rw [evaluate_eq_stages hliteral] at hvalue
  obtain ⟨form, harrange, hrun⟩ := exists_run_of_result_evaluateStages hvalue
  have hstandard : ∀ token ∈ tokens, token.IsStandard := isStandard_resolve options expression
  have hbalanced : isBalanced 0 tokens = true := by
    rw [hstrict] at harrange
    exact (Postfix.arranges_of_arrange harrange).isBalanced
  have hcount := Postfix.length_run_form hstandard harrange hrun
  have hdefects := juxtaposed_add false tokens
  rw [List.length_singleton] at hcount
  rw [Bool.toNat_false] at hdefects
  have hequal : juxtaposed false tokens = missing false tokens := by omega
  refine ⟨hbalanced, hequal, fun hderivable => hderivable.wellPlaced.1, fun hnone => ?_⟩
  exact .of_wellPlaced hstandard hbalanced ⟨hnone, hequal ▸ hnone⟩

/-- The tokens of `2 * (3 + 4)` are derivable because the expression has a value. -/
theorem defects_of_evaluate_ok_product :
    Derivable (resolve { strict := true } (Expression.tokens { strict := true } "2*(3+4)")) := by
  have hvalue : evaluate .int32 { strict := true } Variables.none "2*(3+4)" =
      .ok (14#32 : BitVec 32) := by decide +kernel
  exact (@defects_of_evaluate_ok .int32 { strict := true } Variables.none "2*(3+4)" _ rfl
    (by decide +kernel) hvalue).2.2.mpr (by decide +kernel)

/-- An operator behind both of its operands is accepted, too: one operand follows another one, and
one is missing. -/
theorem evaluate_operatorBehindOperands :
    NumberKind.int32.arithmetic.literal? "((2)(3)+)" = none ∧
      evaluate .int32 { strict := true } Variables.none "((2)(3)+)" = .ok (5#32 : BitVec 32) ∧
      ¬Derivable (resolve { strict := true }
        (Expression.tokens { strict := true } "((2)(3)+)")) := by
  refine ⟨by decide +kernel, by decide +kernel, fun hderivable => ?_⟩
  have hnone := hderivable.wellPlaced.1
  have hone : juxtaposed false (resolve { strict := true }
      (Expression.tokens { strict := true } "((2)(3)+)")) = 1 := by decide +kernel
  omega

end Calculator
