import Calculator.Proofs.Evaluation.Literal
import Calculator.Proofs.Evaluation.Parentheses
import Calculator.Proofs.Token.Negated

/-!
# Prepared evaluation

A postfix form that was made once may be evaluated many times, each time with other variables and
all on one machine. Every run begins with an empty stack, so what earlier runs left behind plays no
part, and each run gives what the evaluation of the expression gives. An expression whose conversion
fails has that failure under every source of variables; literals are no exception, because their
conversion succeeds.
-/

namespace Calculator

open Token

variable {kind : NumberKind} {options : Options} {expression : String} {x : kind.Value}

/-- A literal has a token. -/
theorem tokens_ne_nil_of_literal? (hliteral : kind.arithmetic.literal? expression = some x) :
    Expression.tokens options expression ≠ [] := by
  obtain ⟨-, last, hlast, -⟩ := NumberKind.isSpelled_of_literal? hliteral
  have hmem := List.mem_of_mem_getLast? hlast
  have hblank := NumberKind.isBlank_eq_false_of_literal? hliteral last hmem
  rw [Expression.tokens, Ne, Scanner.tokens_eq_nil_iff, Scanner.ofList,
    Expression.trimmed_of_literal? options hliteral]
  intro hall
  rw [hall last hmem] at hblank
  cases hblank

/-- The conversion of a literal succeeds. -/
theorem exists_form_of_literal? (options : Options)
    (hliteral : kind.arithmetic.literal? expression = some x) :
    ∃ form, (Postfix.ofExpression options expression).result = .ok form := by
  obtain ⟨form, hform⟩ := Postfix.exists_arrange_of_isBalanced
    (Postfix.isBalanced_iff.mpr (not_hasStray_of_literal? options hliteral))
  have hsome : (resolve options (Expression.tokens options expression)).isEmpty = false := by
    rw [← Bool.not_eq_true, List.isEmpty_iff_length_eq_zero, length_resolve,
      List.length_eq_zero_iff]
    exact tokens_ne_nil_of_literal? hliteral
  refine ⟨form, ?_⟩
  rw [Postfix.result_ofExpression, hsome, if_neg Bool.false_ne_true, Postfix.ofTokens]
  exact hform _

/-- What is not a literal has the value of its postfix form. -/
theorem evaluate_eq_evaluateTerms {form : List Token}
    (hliteral : kind.arithmetic.literal? expression = none)
    (hform : (Postfix.ofExpression options expression).result = .ok form)
    (source : Variables kind.Value) :
    evaluate kind options source expression =
      evaluateTerms kind.arithmetic (form.map (Term.ofToken source)) := by
  rw [evaluate_eq_stages hliteral, result_evaluateStages, hform, ok_bind]

/-- Prepared evaluation is evaluation. If an expression is not a literal and has a postfix form,
then substituting any sources of variables in it and running the terms, one after the other and on
one machine, gives what the evaluation of the expression gives under each of them, whatever the
machine ran before. If the conversion fails, evaluation fails with the same failure under every
source. -/
theorem evaluatePrepared_eq_map (kind : NumberKind) (options : Options) (expression : String) :
    (∀ form, kind.arithmetic.literal? expression = none →
      (Postfix.ofExpression options expression).result = .ok form →
      ∀ sources : List (Variables kind.Value), ∃ prepared : List (List (Term kind.Value)),
        let outcomes := sources.map fun source => evaluate kind options source expression
        List.Forall₂ (fun source terms =>
          (Term.substitute kind.arithmetic source form).result = .ok terms) sources prepared ∧
        evaluatePrepared kind.arithmetic form sources = outcomes ∧
        ∀ machine : Machine kind.Value, machine.runAll kind.arithmetic prepared = outcomes) ∧
    ∀ failure, (Postfix.ofExpression options expression).result = .error failure →
      ∀ source, evaluate kind options source expression = .error failure := by
  constructor
  · intro form hliteral hform sources
    have hruns (machine : Machine kind.Value) : machine.runAll kind.arithmetic
        (sources.map fun source => form.map (Term.ofToken source)) =
          sources.map fun source => evaluate kind options source expression := by
      rw [Machine.runAll_eq_map, List.map_map]
      exact List.map_congr_left fun source _ =>
        (evaluate_eq_evaluateTerms hliteral hform source).symm
    refine ⟨sources.map fun source => form.map (Term.ofToken source), ?_, hruns Machine.new, hruns⟩
    rw [List.forall₂_map_right_iff, List.forall₂_same]
    exact fun source _ => Term.result_substitute kind.arithmetic source form
  · intro failure hfailure source
    cases hliteral : kind.arithmetic.literal? expression with
    | some x =>
      obtain ⟨form, hform⟩ := exists_form_of_literal? options hliteral
      rw [hform] at hfailure
      cases hfailure
    | none => rw [evaluate_eq_stages hliteral, result_evaluateStages, hfailure, error_bind]

/-- A zero divisor and an unknown name do not disturb the runs behind them. -/
theorem evaluatePrepared_eq_map_quotient :
    let source (pairs : List (String × BitVec 32)) : Variables NumberKind.int32.Value :=
      Variables.ofList pairs
    let sources := [source [("x", 8), ("y", 0)], source [("y", 2)], source [("x", 8), ("y", 2)]]
    ∃ form, (Postfix.ofExpression {} "1+x/y").result = .ok form ∧
      evaluatePrepared NumberKind.int32.arithmetic form sources =
        [.error (.zeroDivisor 3), .error (.unknownOperand "x" 2), .ok (5#32 : BitVec 32)] ∧
      ∀ source, evaluate .int32 { strict := true } source "(1" =
        .error (.strayParenthesis 0 '(') := by
  intro source sources
  have hliteral : (Word.arithmetic 32).literal? "1+x/y" = none := by decide +kernel
  have hstrict : (Postfix.ofExpression { strict := true } "(1").result =
      .error (.strayParenthesis 0 '(') := by decide +kernel
  obtain ⟨form, hform⟩ : ∃ form, (Postfix.ofExpression {} "1+x/y").result = .ok form :=
    ⟨[⟨.operand, "1", 0⟩, ⟨.operand, "x", 2⟩, ⟨.operand, "y", 4⟩,
      ⟨.operator BinaryOperation.divide.operator, "/", 3⟩,
      ⟨.operator BinaryOperation.add.operator, "+", 1⟩], by decide +kernel⟩
  obtain ⟨-, -, hprepared, -⟩ :=
    (evaluatePrepared_eq_map .int32 {} "1+x/y").1 form hliteral hform sources
  refine ⟨form, hform, hprepared.trans ?_, ?_⟩
  · decide +kernel
  · exact (evaluatePrepared_eq_map .int32 { strict := true } "(1").2 _ hstrict

end Calculator
