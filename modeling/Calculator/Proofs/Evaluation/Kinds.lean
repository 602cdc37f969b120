import Calculator.Proofs.Evaluation.Literal
import Calculator.Proofs.Machine.Arity
import Calculator.Proofs.Number.Widening

/-!
# Expressions in several kinds

In every kind a number in one of its notations is an expression for itself. Beyond that an
expression may have values in several kinds: one that has a value in integers has one in
floating-point numbers, too, and one without powers that has a value in integers of 32 bits has the
same value in integers of 64 bits.
-/

namespace Calculator

open Token

/-- Reading in a kind accepts exactly the notations of its numbers: digits behind an optional sign
for an integer in range; an optional sign and a decimal number with an optional exponent, or a word
for infinity or for not-a-number in any letter case, for a floating-point number. A text that is
such a notation but for blanks around it is an expression for its number, whatever the options and
the variables are. -/
theorem evaluate_standardLiteral (kind : NumberKind) (options : Options)
    (source : Variables kind.Value) (expression : String) (x : kind.Value) :
    (∀ text, kind.arithmetic.read? text = some x ↔ kind.Writes text x) ∧
      (kind.arithmetic.read? (Text.trim expression.toList) = some x →
        evaluate kind options source expression = .ok x ∧
          evaluateOrZero kind source expression = (true, x)) := by
  refine ⟨fun _ => NumberKind.read?_eq_some_iff, fun hread => ?_⟩
  have hvalue (options : Options) : evaluate kind options source expression = .ok x :=
    evaluate_literal (NumberKind.literal?_of_read? hread)
  exact ⟨hvalue options, by rw [evaluateOrZero, hvalue]⟩

/-- The last letter of an infinity is not taken for a suffix. -/
theorem evaluate_standardLiteral_minusInfinity :
    evaluate .float64 {} Variables.none " -iNf " =
        .ok (FloatingPoint.ofNumeral (.infinite true) : Float) ∧
      evaluateOrZero .float64 Variables.none " -iNf " =
        (true, (FloatingPoint.ofNumeral (.infinite true) : Float)) :=
  (evaluate_standardLiteral .float64 {} Variables.none " -iNf " _).2 rfl

section Covering

variable {options : Options} {expression : String}

/-- The stages have a value in a wider arithmetic if they have one. -/
theorem result_evaluateStages_covered {α β : Type} {A : Arithmetic α} {B : Arithmetic β}
    {R : α → β → Prop} {allowed : BinaryOperation → Prop} (hcovers : B.Covers R A allowed)
    (hallowed : ∀ token ∈ resolve options (Expression.tokens options expression),
      token.Allows allowed) {x : α}
    (hvalue : (evaluateStages A options Variables.none expression).result = .ok x) :
    ∃ y, (evaluateStages B options Variables.none expression).result = .ok y ∧ R x y := by
  rw [result_evaluateStages_eq_bind, bind_eq_ok_iff] at hvalue
  obtain ⟨form, hform, hterms⟩ := hvalue
  have harranges := Postfix.arranges_of_arrange hform
  have htokens : ∀ token ∈ form, token.Allows allowed := fun token htoken =>
    hallowed token ((harranges.mem_or_mem token htoken).resolve_left List.not_mem_nil)
  simp only [funext Term.ofToken_none] at hterms
  obtain ⟨y, hy, hrelated⟩ := evaluateTerms_covered hcovers htokens hterms
  refine ⟨y, ?_, hrelated⟩
  rw [result_evaluateStages_eq_bind, hform, ok_bind]
  simpa only [funext Term.ofToken_none] using hy

/-- If the stages have a value, it is the value of the expression. -/
theorem evaluate_of_result_evaluateStages {kind : NumberKind} {x : kind.Value}
    (hvalue : (evaluateStages kind.arithmetic options Variables.none expression).result = .ok x) :
    evaluate kind options Variables.none expression = .ok x := by
  cases hliteral : kind.arithmetic.literal? expression with
  | none => rw [evaluate_eq_stages hliteral, hvalue]
  | some y =>
    obtain ⟨rfl, -⟩ := hasPlainSigns_of_result_evaluateStages hliteral hvalue
    exact evaluate_literal hliteral

/-- An expression has a value in a kind whose arithmetic is wider if it has one. What is a literal
in only one of the kinds goes through the stages in the other one. -/
theorem evaluate_covered {narrow wide : NumberKind} {R : narrow.Value → wide.Value → Prop}
    {allowed : BinaryOperation → Prop}
    (hcovers : wide.arithmetic.Covers R narrow.arithmetic allowed)
    (hallowed : ∀ token ∈ resolve options (Expression.tokens options expression),
      token.Allows allowed) {x : narrow.Value}
    (hvalue : evaluate narrow options Variables.none expression = .ok x) :
    ∃ y, evaluate wide options Variables.none expression = .ok y ∧ R x y := by
  cases hliteral : narrow.arithmetic.literal? expression with
  | none =>
    rw [evaluate_eq_stages hliteral] at hvalue
    obtain ⟨y, hy, hrelated⟩ := result_evaluateStages_covered hcovers hallowed hvalue
    exact ⟨y, evaluate_of_result_evaluateStages hy, hrelated⟩
  | some z =>
    obtain rfl : z = x := by simpa [evaluate_literal hliteral] using hvalue
    obtain ⟨y, hy, hrelated⟩ := hcovers.literal? hliteral
    exact ⟨y, evaluate_literal hy, hrelated⟩

/-- An expression without the symbol of powers has no operator for powers. -/
theorem allows_of_not_mem (hpower : '^' ∉ expression.toList) :
    ∀ token ∈ resolve options (Expression.tokens options expression),
      token.Allows (· ≠ .power) := by
  rintro token htoken op _ hkind hmeans rfl
  have hmem := isStandard_resolve options expression token htoken op hkind
  have hmarks := marks_resolve options expression token htoken
  obtain rfl := Operator.eq_operator_of_mem_table hmem hmeans
  simp only [Marks, hkind] at hmarks
  exact hpower (Expression.mem_of_mem_trimmed (List.mem_of_getElem? hmarks))

end Covering

/-- The kinds agree upward. An expression that has a value in integers has one in floating-point
numbers of either precision. An expression without powers that has a value in integers of 32 bits
has the same value in integers of 64 bits. -/
theorem evaluate_wider (options : Options) (expression : String) :
    (∀ narrow wide : NumberKind, narrow.isInteger = true → wide.isInteger = false →
      ∀ x, evaluate narrow options Variables.none expression = .ok x →
        ∃ y, evaluate wide options Variables.none expression = .ok y) ∧
    ('^' ∉ expression.toList → ∀ x, evaluate .int32 options Variables.none expression = .ok x →
      ∃ y, evaluate .int64 options Variables.none expression = .ok y ∧
        BitVec.toInt y = BitVec.toInt x) := by
  refine ⟨fun narrow wide hnarrow hwide x hvalue => ?_, fun hpower x hvalue => ?_⟩
  · have hallowed : ∀ token ∈ resolve options (Expression.tokens options expression),
        token.Allows fun _ => True := fun _ _ _ _ _ _ => trivial
    have hcovers := NumberKind.covers_integer hnarrow hwide
    obtain ⟨y, hy, -⟩ := evaluate_covered hcovers hallowed hvalue
    exact ⟨y, hy⟩
  · have hcovers : NumberKind.int64.arithmetic.Covers _ NumberKind.int32.arithmetic _ :=
      Word.covers_of_le (by decide) (by decide)
    exact evaluate_covered hcovers (allows_of_not_mem hpower) hvalue

/-- The wider integers may have a value where the narrower ones have none. -/
example : evaluate .int32 {} Variables.none "65536 * 65536" = .error (.outOfRange '*' 6) ∧
    (evaluate .int64 {} Variables.none "65536 * 65536").isOk = true := by
  decide +kernel

/-- The quotient is truncated in both widths; in floating-point numbers there is some value. -/
theorem evaluate_wider_quotient :
    (∃ y, evaluate .float32 {} Variables.none "-(7 / 2)) + -1" = .ok y) ∧
      evaluate .int64 {} Variables.none "-(7 / 2)) + -1" = .ok (-4#64 : BitVec 64) := by
  have hvalue : evaluate .int32 {} Variables.none "-(7 / 2)) + -1" = .ok (-4#32 : BitVec 32) := by
    decide +kernel
  obtain ⟨hreal, hinteger⟩ := evaluate_wider {} "-(7 / 2)) + -1"
  refine ⟨hreal .int32 .float32 rfl rfl _ hvalue, ?_⟩
  obtain ⟨y, hy, hsame⟩ := hinteger (by decide) _ hvalue
  rw [hy, show y = (-4#64 : BitVec 64) from BitVec.toInt_inj.mp hsame]

end Calculator
