import Calculator.Proofs.Postfix.Order
import Calculator.Proofs.Stages
import Calculator.Proofs.Token.Negated

/-!
# What the log tells

The log of an evaluation has a record for every stage that was reached: the tokens, the postfix form
and the substitution of every operand that names a variable. Conversion keeps the order of operands
and substitution ends before evaluation begins, so the substitutions are recorded completely and in
the order of the operands in the text. If the evaluation fails, a record of the failure comes last.
-/

namespace Calculator

open Token Logged

section Stages

variable {α : Type} {A : Arithmetic α} {options : Options} {source : Variables α}
  {expression : String}

/-- The record of the substitution of an operand, if it names a variable. -/
def substitutionRecord? (A : Arithmetic α) (source : Variables α) (operand : Token) :
    Option Event :=
  (source operand.text).map fun x => .substituted operand.text (A.text x)

/-- The operands of a list of tokens are all that is recorded by a substitution. -/
theorem filterMap_substitution? (tokens : List Token) :
    tokens.filterMap (Term.substitution? A source) =
      (tokens.filter isOperand).filterMap (substitutionRecord? A source) := by
  rw [List.filterMap_filter]
  refine List.filterMap_congr fun token _ => ?_
  cases hkind : token.kind <;>
    simp [Term.substitution?, Term.lookup?, substitutionRecord?, isOperand, hkind]

/-- Resolving minus signs leaves an expression that has tokens with some. -/
theorem isEmpty_resolve_eq_false (hne : Expression.tokens options expression ≠ []) :
    (resolve options (Expression.tokens options expression)).isEmpty = false := by
  rwa [List.isEmpty_eq_false_iff, ← List.length_pos_iff, length_resolve, List.length_pos_iff]

/-- Of an expression without tokens no stage is recorded. -/
theorem log_evaluateStages_of_eq_nil (hnil : Expression.tokens options expression = []) :
    (evaluateStages A options source expression).log = [] := by
  rw [log_eq_runFrom, evaluateStages, runFrom_bind, Postfix.runFrom_ofExpression, hnil]
  rfl

/-- Of an expression that cannot be converted only the tokens are recorded. -/
theorem log_evaluateStages_of_error (hne : Expression.tokens options expression ≠ [])
    {failure : Failure} (hform : Postfix.ofTokens options
      (resolve options (Expression.tokens options expression)) = .error failure) :
    (evaluateStages A options source expression).log =
      [.tokens expression (resolve options (Expression.tokens options expression))] := by
  rw [log_eq_runFrom, evaluateStages, runFrom_bind, Postfix.runFrom_ofExpression]
  simp only [isEmpty_resolve_eq_false hne, Bool.false_eq_true, if_false, hform, List.nil_append]

/-- Of an expression that can be converted the tokens, the postfix form and every substitution are
recorded, whether the postfix form has a value or not. -/
theorem log_evaluateStages_of_ok (hne : Expression.tokens options expression ≠ [])
    {form : List Token} (hform : Postfix.ofTokens options
      (resolve options (Expression.tokens options expression)) = .ok form) :
    (evaluateStages A options source expression).log =
      .tokens expression (resolve options (Expression.tokens options expression)) ::
        .arranged expression form ::
          ((Expression.tokens options expression).filter isOperand).filterMap
            (substitutionRecord? A source) := by
  have hoperands : form.filter isOperand =
      (Expression.tokens options expression).filter isOperand := by
    rw [(Postfix.arranges_of_arrange hform).filter_isOperand nofun, resolve,
      filter_isOperand_resolveFrom]
  rw [log_eq_runFrom, evaluateStages, runFrom_bind, Postfix.runFrom_ofExpression]
  simp only [isEmpty_resolve_eq_false hne, Bool.false_eq_true, if_false, hform, runFrom_bind,
    Term.runFrom_substitute, runFrom_ofExcept, filterMap_substitution?, hoperands,
    List.cons_append, List.nil_append]

/-- The stages of an evaluation are recorded for tracing. -/
theorem level_of_mem_log_evaluateStages {event : Event}
    (hevent : event ∈ (evaluateStages A options source expression).log) : event.level = .trace := by
  by_cases hnil : Expression.tokens options expression = []
  · rw [log_evaluateStages_of_eq_nil hnil] at hevent
    cases hevent
  · cases hform : Postfix.ofTokens options
        (resolve options (Expression.tokens options expression)) with
    | error failure =>
      rw [log_evaluateStages_of_error hnil hform, List.mem_singleton] at hevent
      rw [hevent]
      rfl
    | ok form =>
      rw [log_evaluateStages_of_ok hnil hform, List.mem_cons, List.mem_cons,
        List.mem_filterMap] at hevent
      obtain rfl | rfl | ⟨operand, -, hrecord⟩ := hevent
      · rfl
      · rfl
      · obtain ⟨x, -, rfl⟩ := Option.map_eq_some_iff.mp hrecord
        rfl

end Stages

variable {kind : NumberKind} {options : Options} {source : Variables kind.Value}
  {expression : String}

/-- A literal leaves no record. -/
theorem log_evaluateLogged_literal {x : kind.Value}
    (hliteral : kind.arithmetic.literal? expression = some x) :
    (evaluateLogged kind options source expression).log = [] := by
  rw [evaluateLogged, hliteral]
  rfl

/-- An evaluation that succeeds records its stages only. -/
theorem log_evaluateLogged_of_ok (hliteral : kind.arithmetic.literal? expression = none)
    {x : kind.Value} (hvalue : evaluate kind options source expression = .ok x) :
    (evaluateLogged kind options source expression).log =
      (evaluateStages kind.arithmetic options source expression).log := by
  rw [evaluate_eq_stages hliteral, result_eq_runFrom] at hvalue
  rw [log_eq_runFrom, runFrom_evaluateLogged hliteral, log_eq_runFrom]
  revert hvalue
  rcases (evaluateStages kind.arithmetic options source expression).runFrom [] with
    ⟨failure | y, log⟩
  · exact nofun
  · exact fun _ => rfl

/-- An evaluation that fails records the failure behind its stages. -/
theorem log_evaluateLogged_of_error (hliteral : kind.arithmetic.literal? expression = none)
    {failure : Failure} (hfailure : evaluate kind options source expression = .error failure) :
    (evaluateLogged kind options source expression).log =
      (evaluateStages kind.arithmetic options source expression).log ++
        [.failed kind expression failure] := by
  rw [evaluate_eq_stages hliteral, result_eq_runFrom] at hfailure
  rw [log_eq_runFrom, runFrom_evaluateLogged hliteral, log_eq_runFrom]
  revert hfailure
  rcases (evaluateStages kind.arithmetic options source expression).runFrom [] with
    ⟨other | y, log⟩
  · rintro ⟨⟩
    rfl
  · exact nofun

/-- The log tells the outcome of an evaluation and all of its substitutions. A literal leaves no
record. Otherwise the log has records of stages for tracing and, exactly if the evaluation fails, the
failure for debugging as its last record. The stages are none if the expression has no tokens, the
tokens alone if their conversion fails, and otherwise the tokens, the postfix form and the
substitution of every operand that names a variable by its value, in the order of the operands in the
text and whatever becomes of the postfix form. -/
theorem log_evaluateLogged (kind : NumberKind) (options : Options)
    (source : Variables kind.Value) (expression : String) :
    let tokens := Expression.tokens options expression
    let resolved := resolve options tokens
    let outcome := evaluate kind options source expression
    let log := (evaluateLogged kind options source expression).log
    (∀ x, kind.arithmetic.literal? expression = some x → log = []) ∧
    (kind.arithmetic.literal? expression = none → ∃ stages : List Event,
      (∀ event ∈ stages, event.level = .trace) ∧
      ((∃ x, outcome = .ok x ∧ log = stages) ∨
        ∃ failure, outcome = .error failure ∧ log = stages ++ [.failed kind expression failure] ∧
          (Event.failed kind expression failure).level = .debug) ∧
      (tokens = [] → stages = []) ∧
      (tokens ≠ [] → ∀ failure, Postfix.ofTokens options resolved = .error failure →
        stages = [.tokens expression resolved]) ∧
      (tokens ≠ [] → ∀ form, Postfix.ofTokens options resolved = .ok form →
        stages = .tokens expression resolved :: .arranged expression form ::
          (tokens.filter isOperand).filterMap (substitutionRecord? kind.arithmetic source))) ∧
    tokens.Pairwise (·.position < ·.position) := by
  intro tokens resolved outcome log
  refine ⟨fun x hliteral => log_evaluateLogged_literal hliteral, fun hliteral => ?_,
    Scanner.pairwise_position _⟩
  refine ⟨(evaluateStages kind.arithmetic options source expression).log,
    fun event hevent => level_of_mem_log_evaluateStages hevent, ?_, log_evaluateStages_of_eq_nil,
    fun hne failure hform => log_evaluateStages_of_error hne hform,
    fun hne form hform => log_evaluateStages_of_ok hne hform⟩
  cases houtcome : outcome with
  | ok x => exact .inl ⟨x, rfl, log_evaluateLogged_of_ok hliteral houtcome⟩
  | error failure =>
    exact .inr ⟨failure, rfl, log_evaluateLogged_of_error hliteral houtcome, rfl⟩

/-- The divisor is zero, and the substitution of the operand behind the failing division is recorded
all the same. -/
theorem log_evaluateLogged_quotient :
    let source : Variables NumberKind.int32.Value :=
      .ofList [("x", (5#32 : BitVec 32)), ("y", (0#32 : BitVec 32))]
    (evaluateLogged .int32 {} source "1/y+x").log =
      [.tokens "1/y+x" (resolve {} (Expression.tokens {} "1/y+x")),
        .arranged "1/y+x" [⟨.operand, "1", 0⟩, ⟨.operand, "y", 2⟩,
          ⟨.operator ⟨'/', 3, 2, .left⟩, "/", 1⟩, ⟨.operand, "x", 4⟩,
          ⟨.operator ⟨'+', 2, 2, .left⟩, "+", 3⟩],
        .substituted "y" "0", .substituted "x" "5",
        .failed .int32 "1/y+x" (.zeroDivisor 1)] := by
  intro source
  obtain ⟨-, hrecorded, -⟩ := log_evaluateLogged .int32 {} source "1/y+x"
  obtain ⟨stages, -, houtcome, -, -, hform⟩ := hrecorded (by decide +kernel)
  have hfailure : evaluate .int32 {} source "1/y+x" = .error (.zeroDivisor 1) := by decide +kernel
  have hstages := hform (by decide +kernel) [⟨.operand, "1", 0⟩, ⟨.operand, "y", 2⟩,
    ⟨.operator ⟨'/', 3, 2, .left⟩, "/", 1⟩, ⟨.operand, "x", 4⟩,
    ⟨.operator ⟨'+', 2, 2, .left⟩, "+", 3⟩] (by decide +kernel)
  have hsubstituted : ((Expression.tokens {} "1/y+x").filter isOperand).filterMap
      (substitutionRecord? NumberKind.int32.arithmetic source) =
        [.substituted "y" "0", .substituted "x" "5"] := by decide +kernel
  rcases houtcome with ⟨x, hvalue, -⟩ | ⟨failure, hother, hlog, -⟩
  · rw [hfailure] at hvalue
    cases hvalue
  · obtain rfl : failure = .zeroDivisor 1 := Except.error.inj (hother.symm.trans hfailure)
    rw [hlog, hstages, hsubstituted]
    rfl

end Calculator
