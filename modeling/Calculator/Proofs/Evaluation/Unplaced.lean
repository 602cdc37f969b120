import Calculator.Proofs.Postfix.Moved
import Calculator.Proofs.Stages
import Calculator.Proofs.Token.Unplaced

/-!
# Outcomes without places

The places of tokens are carried through an evaluation for the sake of failures only. Each stage
does the same with tokens that stand elsewhere, so that expressions with the same tokens in the same
order have the same value, or the same failure at another place.
-/

namespace Calculator

open Token

/-- The failure without the place that it points at. -/
def Failure.unplaced : Failure → Failure
  | noValue => noValue
  | unknownOperand text _ => unknownOperand text 0
  | tooFewOperands symbol _ expected found => tooFewOperands symbol 0 expected found
  | strayParenthesis _ found => strayParenthesis 0 found
  | zeroDivisor _ => zeroDivisor 0
  | outOfRange symbol _ => outOfRange symbol 0
  | tooManyValues count => tooManyValues count

/-- The outcome of a conversion without places. -/
def Postfix.unplaced (outcome : Except Failure (List Token)) : Except Failure (List Token) :=
  (List.map Token.unplaced <$> outcome).mapError Failure.unplaced

namespace Postfix

/-- The conversion to postfix form does not look at places. -/
theorem arrange_map_unplaced (strict : Bool) (pending tokens : List Token) :
    arrange strict (pending.map Token.unplaced) (tokens.map Token.unplaced) =
      Postfix.unplaced (arrange strict pending tokens) := by
  have hfailure : Failure.moved (fun _ => 0) = Failure.unplaced := by
    funext failure
    cases failure <;> rfl
  have hmoved := arrange_map_moved (fun _ => 0) strict pending tokens
  rw [moved, hfailure] at hmoved
  exact hmoved

end Postfix

namespace Term

variable {α : Type}

/-- The term as it stands nowhere in particular. -/
def unplaced : Term α → Term α
  | value x _ => value x 0
  | token item => token item.unplaced

/-- The value of a variable does not depend on the place of its name. -/
theorem ofToken_unplaced (source : Variables α) (item : Token) :
    ofToken source item.unplaced = (ofToken source item).unplaced := by
  have hlookup : lookup? source item.unplaced = lookup? source item := rfl
  rw [ofToken, ofToken, hlookup]
  cases lookup? source item <;> rfl

end Term

namespace Stack

variable {α : Type} (A : Arithmetic α)

/-- An operator does the same at another place. -/
theorem apply_unplaced (op : Operator) (position : Nat) (stack : Stack α) :
    apply A op 0 stack = (apply A op position stack).mapError Failure.unplaced := by
  have hpush (outcome : Except Fault α) (below : Stack α) : apply.push op 0 outcome below =
      (apply.push op position outcome below).mapError Failure.unplaced := by
    rcases outcome with (_ | _) | x <;> rfl
  cases hmeans : Operation.ofSymbol? op.symbol with
  | none => simp only [apply, hmeans]; rfl
  | some operation =>
    cases operation with
    | negate =>
      simp only [apply, hmeans]
      cases stack with
      | nil => rfl
      | cons x below => exact hpush _ _
    | binary operation =>
      simp only [apply, hmeans]
      rcases stack with _ | ⟨right, _ | ⟨left, below⟩⟩
      · rfl
      · rfl
      · exact hpush _ _

/-- A term does the same at another place. -/
theorem step_unplaced (stack : Stack α) (term : Term α) :
    step A stack term.unplaced = (step A stack term).mapError Failure.unplaced := by
  cases term with
  | value x position => rfl
  | token item =>
    obtain ⟨kind, text, position⟩ := item
    cases kind with
    | operand =>
      simp only [Term.unplaced, Token.unplaced, step]
      cases A.literal? text <;> rfl
    | opening | closing => rfl
    | operator op => exact apply_unplaced A op position stack

/-- A run does the same at other places. -/
theorem run_map_unplaced (stack : Stack α) (terms : List (Term α)) :
    run A stack (terms.map Term.unplaced) =
      (run A stack terms).mapError Failure.unplaced := by
  induction terms generalizing stack with
  | nil => rfl
  | cons term rest ih =>
    rw [List.map_cons, run_cons, run_cons, mapError_bind, step_unplaced]
    exact congrArg _ (funext ih)

/-- A postfix form has the same value at other places. -/
theorem evaluateTerms_map_unplaced (terms : List (Term α)) :
    evaluateTerms A (terms.map Term.unplaced) =
      (evaluateTerms A terms).mapError Failure.unplaced := by
  have hresult (stack : Stack α) : (result stack).mapError Failure.unplaced = result stack := by
    rcases stack with _ | ⟨x, _ | ⟨y, below⟩⟩ <;> rfl
  rw [evaluateTerms_eq_run, evaluateTerms_eq_run, mapError_bind, run_map_unplaced]
  exact congrArg _ (funext fun stack => (hresult stack).symm)

end Stack

variable {α : Type} (A : Arithmetic α)

/-- The stages do the same with tokens that stand elsewhere. -/
theorem mapError_result_evaluateStages (options : Options) (source : Variables α)
    (expression : String) :
    (evaluateStages A options source expression).result.mapError Failure.unplaced =
      Postfix.ofTokens options
          (resolve options ((Expression.tokens options expression).map Token.unplaced)) >>=
        fun form => evaluateTerms A (form.map (Term.ofToken source)) := by
  have hterms (form : List Token) : (form.map Token.unplaced).map (Term.ofToken source) =
      (form.map (Term.ofToken source)).map Term.unplaced := by
    rw [List.map_map, List.map_map]
    exact List.map_congr_left fun token _ => Term.ofToken_unplaced source token
  have harrange := Postfix.arrange_map_unplaced options.strict []
    (resolve options (Expression.tokens options expression))
  rw [List.map_nil] at harrange
  rw [result_evaluateStages_eq_bind, mapError_bind, resolve_map_unplaced, Postfix.ofTokens,
    Postfix.ofTokens, harrange]
  cases Postfix.arrange options.strict []
      (resolve options (Expression.tokens options expression)) with
  | error failure => rfl
  | ok form =>
    change (evaluateTerms A _).mapError _ = evaluateTerms A ((form.map Token.unplaced).map _)
    rw [hterms, Stack.evaluateTerms_map_unplaced]

/-- Expressions with the same tokens at other places have the same value, or the same failure at
another place. -/
theorem mapError_result_evaluateStages_congr {options : Options} {first second : String}
    (hsame : (Expression.tokens options first).map Token.unplaced =
      (Expression.tokens options second).map Token.unplaced) (source : Variables α) :
    (evaluateStages A options source first).result.mapError Failure.unplaced =
      (evaluateStages A options source second).result.mapError Failure.unplaced := by
  rw [mapError_result_evaluateStages, mapError_result_evaluateStages, hsame]

end Calculator
