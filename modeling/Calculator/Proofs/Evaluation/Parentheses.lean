import Calculator.Proofs.Number.Literal
import Calculator.Proofs.Postfix.Strictness
import Calculator.Proofs.Stages

/-!
# Values under strictness

Strictness adds one check to an evaluation and changes no value: an expression has a value under it
exactly if it has this value without it and every closing parenthesis has a partner. An opening
parenthesis without a partner is never accepted: without strictness it stays in the postfix form,
and the stack machine refuses it.
-/

namespace Calculator

open Token

namespace Token

/-- Whether a minus sign negates depends on one of the options. -/
theorem resolve_congr (first second : Options)
    (hsame : first.subtractAfterClosing = second.subtractAfterClosing) (tokens : List Token) :
    resolve first tokens = resolve second tokens := by
  have hnegates (previous : Option Kind) :
      negatesAfter first previous = negatesAfter second previous := by
    rcases previous with _ | _ | _ | _ | op <;> simp only [negatesAfter, hsame]
  have hfrom (previous : Option Kind) :
      resolveFrom first previous tokens = resolveFrom second previous tokens := by
    induction tokens generalizing previous with
    | nil => rfl
    | cons token rest ih =>
      rw [resolveFrom, resolveFrom, resolveAfter, resolveAfter, hnegates, ih]
  exact hfrom none

end Token

variable {kind : NumberKind} {options : Options} {source : Variables kind.Value}
  {expression : String} {x : kind.Value}

/-- A literal has no stray parenthesis. -/
theorem not_hasStray_of_literal? (options : Options)
    (hliteral : kind.arithmetic.literal? expression = some x) :
    ¬HasStrayClosing (resolve options (Expression.tokens options expression)) ∧
      ¬HasStrayOpening (resolve options (Expression.tokens options expression)) := by
  have hnone (token : Token)
      (htoken : token ∈ resolve options (Expression.tokens options expression)) :
      token.kind ≠ .opening ∧ token.kind ≠ .closing :=
    NumberKind.kind_ne_of_literal? hliteral (marks_resolve options expression token htoken)
  constructor
  · rintro ⟨before, closing, after, hsplit, hclosing, -⟩
    exact (hnone closing (by simp [hsplit])).2 hclosing
  · rintro ⟨before, opening, after, hsplit, hopening, -⟩
    exact (hnone opening (by simp [hsplit])).1 hopening

/-- An expression with a value has no stray opening parenthesis, strict or not. -/
theorem not_hasStrayOpening_of_evaluate (hvalue : evaluate kind options source expression = .ok x) :
    ¬HasStrayOpening (resolve options (Expression.tokens options expression)) := by
  cases hliteral : kind.arithmetic.literal? expression with
  | some y => exact (not_hasStray_of_literal? options hliteral).2
  | none =>
    rw [evaluate_eq_stages hliteral] at hvalue
    obtain ⟨form, harrange, hrun⟩ := exists_run_of_result_evaluateStages hvalue
    rintro ⟨before, opening, after, hsplit, hopening, hstray⟩
    rw [hsplit] at harrange
    have hmem : opening ∈ form :=
      (Postfix.arranges_of_arrange harrange).mem_of_stray hopening hstray
    have hkept := isKept_of_known (Stack.known_of_run hrun _ (List.mem_map_of_mem hmem))
    simp [isKept, hopening] at hkept

/-- Under strictness an expression with a value has no stray closing parenthesis. -/
theorem not_hasStrayClosing_of_evaluate (hstrict : options.strict = true)
    (hvalue : evaluate kind options source expression = .ok x) :
    ¬HasStrayClosing (resolve options (Expression.tokens options expression)) := by
  cases hliteral : kind.arithmetic.literal? expression with
  | some y => exact (not_hasStray_of_literal? options hliteral).1
  | none =>
    rw [evaluate_eq_stages hliteral] at hvalue
    obtain ⟨form, harrange, -⟩ := exists_run_of_result_evaluateStages hvalue
    rw [hstrict] at harrange
    exact (Postfix.isBalanced_iff.mp (Postfix.arranges_of_arrange harrange).isBalanced).1

/-- On balanced parentheses strictness plays no part. -/
theorem evaluate_eq_of_isBalanced
    (hbalanced : isBalanced 0 (resolve options (Expression.tokens options expression)) = true)
    (strict : Bool) :
    evaluate kind { options with strict } source expression =
      evaluate kind options source expression := by
  cases hliteral : kind.arithmetic.literal? expression with
  | some y => rw [evaluate_literal hliteral, evaluate_literal hliteral]
  | none =>
    obtain ⟨form, hform⟩ := Postfix.exists_arrange_of_isBalanced hbalanced
    have hresolve : resolve { options with strict } (Expression.tokens options expression) =
        resolve options (Expression.tokens options expression) :=
      resolve_congr { options with strict } options rfl _
    have htokens : Expression.tokens { options with strict } expression =
        Expression.tokens options expression := rfl
    rw [evaluate_eq_bind hliteral, evaluate_eq_bind hliteral, Postfix.ofTokens, Postfix.ofTokens,
      htokens, hresolve, hform, hform]

/-- Strict evaluation is tolerant evaluation plus a check of the parentheses. An expression has a
value under strictness exactly if it has this value without it and no closing parenthesis is stray;
with a stray opening one it has no value either way. On tokens whose parentheses are balanced the
conversion does the same in both modes; on others, strict conversion fails at the leftmost stray
closing parenthesis or, if there is none, at the rightmost stray opening one. -/
theorem evaluate_strict (kind : NumberKind) (options : Options) (source : Variables kind.Value)
    (expression : String) :
    let evaluateWith (strict : Bool) := evaluate kind { options with strict } source expression
    let convertWith (strict : Bool) := Postfix.ofTokens { options with strict }
    let scanned := resolve options (Expression.tokens options expression)
    (∀ x, evaluateWith true = .ok x ↔ evaluateWith false = .ok x ∧ ¬HasStrayClosing scanned) ∧
    (HasStrayOpening scanned → ∀ strict x, evaluateWith strict ≠ .ok x) ∧
    (∀ tokens, isBalanced 0 tokens = false →
      (∃ closing, IsFirstStrayClosing tokens closing ∧
        convertWith true tokens = .error (.strayParenthesis closing.position ')')) ∨
      (¬HasStrayClosing tokens ∧ ∃ opening, IsLastStrayOpening tokens opening ∧
        convertWith true tokens = .error (.strayParenthesis opening.position '('))) ∧
    ∀ tokens, isBalanced 0 tokens = true →
      ∃ form, ∀ strict, convertWith strict tokens = .ok form := by
  intro evaluateWith convertWith scanned
  have hscanned (strict : Bool) : resolve { options with strict }
      (Expression.tokens { options with strict } expression) = scanned :=
    resolve_congr { options with strict } options rfl _
  have hopening {strict : Bool} {x : kind.Value} (hvalue : evaluateWith strict = .ok x) :
      ¬HasStrayOpening scanned :=
    hscanned strict ▸ not_hasStrayOpening_of_evaluate hvalue
  have hsame (hclosing : ¬HasStrayClosing scanned) (hopening : ¬HasStrayOpening scanned) :
      evaluateWith true = evaluateWith false := by
    have hbalanced := Postfix.isBalanced_iff.mpr ⟨hclosing, hopening⟩
    exact (evaluate_eq_of_isBalanced hbalanced true).trans
      (evaluate_eq_of_isBalanced hbalanced false).symm
  refine ⟨fun x => ⟨?_, ?_⟩, ?_, ?_, ?_⟩
  · intro hvalue
    have hclosing : ¬HasStrayClosing scanned :=
      hscanned true ▸ not_hasStrayClosing_of_evaluate rfl hvalue
    exact ⟨(hsame hclosing (hopening hvalue)).symm.trans hvalue, hclosing⟩
  · rintro ⟨hvalue, hclosing⟩
    exact (hsame hclosing (hopening hvalue)).trans hvalue
  · intro hstray strict x hvalue
    exact hopening hvalue hstray
  · exact fun tokens => Postfix.arrange_strict_of_not_isBalanced
  · exact fun tokens => Postfix.exists_arrange_of_isBalanced

/-- Of two stray closing parentheses strictness reports the left one. -/
example : evaluate .int32 {} Variables.none "1+2)*3)" = .ok (9#32 : BitVec 32) ∧
    evaluate .int32 { strict := true } Variables.none "1+2)*3)" =
      .error (.strayParenthesis 3 ')') := by
  decide +kernel

end Calculator
