import Calculator.Evaluation
import Calculator.Proofs.Machine.Run

/-!
# Stages of an evaluation

A computation that keeps a log is described by its outcome and the log behind it. These lemmas
take an evaluation apart: its value depends on the tokens, their postfix form and the variables,
and not on what was logged.
-/

namespace Calculator

variable {α β : Type}

namespace Logged

/-- What a computation gives if the log is not empty at first, and its log. -/
def runFrom (computation : Logged α) (log : List Event) : Except Failure α × List Event :=
  StateT.run (ExceptT.run computation) log

/-- Of two computations the second goes on with the log of the first. -/
theorem runFrom_bind (first : Logged α) (next : α → Logged β) (log : List Event) :
    (first >>= next).runFrom log =
      match first.runFrom log with
      | (.ok x, after) => (next x).runFrom after
      | (.error failure, after) => (.error failure, after) := by
  simp only [runFrom, ExceptT.run_bind, StateT.run_bind]
  rcases StateT.run (ExceptT.run first) log with ⟨failure | x, after⟩ <;> rfl

/-- The image of a computation has the same log. -/
@[simp] theorem runFrom_map (f : α → β) (computation : Logged α) (log : List Event) :
    (f <$> computation).runFrom log =
      (f <$> (computation.runFrom log).1, (computation.runFrom log).2) := by
  rw [← bind_pure_comp, runFrom_bind]
  rcases computation.runFrom log with ⟨failure | x, after⟩ <;> rfl

/-- A value by itself leaves the log as it is. -/
@[simp] theorem runFrom_pure (x : α) (log : List Event) :
    (pure x : Logged α).runFrom log = (.ok x, log) := rfl

/-- A failure keeps what was logged before it. -/
@[simp] theorem runFrom_throw (failure : Failure) (log : List Event) :
    (throw failure : Logged α).runFrom log = (.error failure, log) := rfl

/-- A record goes to the end of the log. -/
@[simp] theorem runFrom_record (event : Event) (log : List Event) :
    (record event).runFrom log = (.ok (), log ++ [event]) := rfl

/-- An outcome that was computed without a log adds nothing to it. -/
@[simp] theorem runFrom_ofExcept (outcome : Except Failure α) (log : List Event) :
    (MonadExcept.ofExcept outcome : Logged α).runFrom log = (outcome, log) := by
  cases outcome <;> rfl

/-- A handler goes on with the log of the computation that failed. -/
theorem runFrom_tryCatch (computation : Logged α) (handler : Failure → Logged α)
    (log : List Event) :
    (tryCatch computation handler).runFrom log =
      match computation.runFrom log with
      | (.ok x, after) => (.ok x, after)
      | (.error failure, after) => (handler failure).runFrom after := by
  simp only [runFrom, ExceptT.run_tryCatch, StateT.run_bind]
  rcases StateT.run (ExceptT.run computation) log with ⟨failure | x, after⟩ <;> rfl

/-- A computation begins with an empty log. -/
theorem result_eq_runFrom (computation : Logged α) :
    computation.result = (computation.runFrom []).1 := rfl

/-- The log of a computation is what it adds to the empty log. -/
theorem log_eq_runFrom (computation : Logged α) :
    computation.log = (computation.runFrom []).2 := rfl

end Logged

open Logged

/-- The record of a substitution, if a token names a variable. -/
def Term.substitution? (A : Arithmetic α) (source : Variables α) (token : Token) :
    Option Event :=
  (Term.lookup? source token).map fun x => .substituted token.text (A.text x)

/-- Substitution gives every token its term and records the variables in their order. -/
theorem Term.runFrom_substitute (A : Arithmetic α) (source : Variables α) (form : List Token)
    (log : List Event) :
    (Term.substitute A source form).runFrom log =
      (.ok (form.map (Term.ofToken source)),
        log ++ form.filterMap (Term.substitution? A source)) := by
  unfold Term.substitute
  induction form generalizing log with
  | nil => simp
  | cons token rest ih =>
    rw [List.mapM_cons]
    cases hlookup : Term.lookup? source token <;>
      simp only [runFrom_bind, runFrom_pure, runFrom_record, ih] <;>
      simp [Term.substitution?, hlookup]

/-- Substitution does not fail. -/
theorem Term.result_substitute (A : Arithmetic α) (source : Variables α) (form : List Token) :
    (Term.substitute A source form).result = .ok (form.map (Term.ofToken source)) := by
  rw [result_eq_runFrom, Term.runFrom_substitute]

/-- The tokens of an expression are recorded before their conversion to postfix form, and the form
behind it if there is one. An expression without tokens fails before that. -/
theorem Postfix.runFrom_ofExpression (options : Options) (expression : String)
    (log : List Event) :
    (Postfix.ofExpression options expression).runFrom log =
      let tokens := Token.resolve options (Expression.tokens options expression)
      if tokens.isEmpty then (.error .noValue, log)
      else match Postfix.ofTokens options tokens with
        | .error failure => (.error failure, log ++ [.tokens expression tokens])
        | .ok form =>
          (.ok form, log ++ [.tokens expression tokens, .arranged expression form]) := by
  rw [Postfix.ofExpression]
  split
  · rename_i hempty
    simp [hempty]
  · rename_i hempty
    simp only [runFrom_bind, runFrom_record, runFrom_ofExcept, runFrom_pure, hempty]
    cases Postfix.ofTokens options
      (Token.resolve options (Expression.tokens options expression)) <;> simp

/-- The outcome of the conversion of an expression to postfix form. -/
theorem Postfix.result_ofExpression (options : Options) (expression : String) :
    (Postfix.ofExpression options expression).result =
      if (Token.resolve options (Expression.tokens options expression)).isEmpty then
        .error .noValue
      else Postfix.ofTokens options
        (Token.resolve options (Expression.tokens options expression)) := by
  rw [result_eq_runFrom, Postfix.runFrom_ofExpression]
  split
  · rename_i hempty
    simp only [hempty, if_true]
  · rename_i hempty
    simp only [hempty]
    cases Postfix.ofTokens options
      (Token.resolve options (Expression.tokens options expression)) <;> rfl

/-- The value of an expression that is not read as a literal comes from the postfix form of its
tokens, with the values of variables put in. -/
theorem result_evaluateStages (A : Arithmetic α) (options : Options) (source : Variables α)
    (expression : String) :
    (evaluateStages A options source expression).result =
      (Postfix.ofExpression options expression).result >>= fun form =>
        evaluateTerms A (form.map (Term.ofToken source)) := by
  simp only [result_eq_runFrom, evaluateStages, runFrom_bind, Term.runFrom_substitute]
  rcases (Postfix.ofExpression options expression).runFrom [] with ⟨failure | form, log⟩ <;>
    simp

/-- An expression without tokens fails as its empty postfix form does, so that the check for tokens
plays no part in the value. -/
theorem result_evaluateStages_eq_bind (A : Arithmetic α) (options : Options)
    (source : Variables α) (expression : String) :
    (evaluateStages A options source expression).result =
      Postfix.ofTokens options (Token.resolve options (Expression.tokens options expression)) >>=
        fun form => evaluateTerms A (form.map (Term.ofToken source)) := by
  rw [result_evaluateStages, Postfix.result_ofExpression]
  split
  · rename_i hempty
    have hform : Postfix.ofTokens options [] = .ok [] := by
      rw [Postfix.ofTokens, Postfix.arrange, Postfix.release]
      cases options.strict <;> rfl
    rw [List.isEmpty_iff.mp hempty, hform]
    rfl
  · rfl

/-- An expression with a value has a postfix form on which a run leaves this value. -/
theorem exists_run_of_result_evaluateStages {A : Arithmetic α} {options : Options}
    {source : Variables α} {expression : String} {x : α}
    (hvalue : (evaluateStages A options source expression).result = .ok x) :
    ∃ form, Postfix.arrange options.strict []
        (Token.resolve options (Expression.tokens options expression)) = .ok form ∧
      Stack.run A [] (form.map (Term.ofToken source)) = .ok [x] := by
  rw [result_evaluateStages_eq_bind, bind_eq_ok_iff] at hvalue
  obtain ⟨form, hform, hterms⟩ := hvalue
  exact ⟨form, hform, Stack.evaluateTerms_eq_ok_iff_run.mp hterms⟩

/-- What is not a literal goes through the stages, and a failure is recorded behind them. -/
theorem runFrom_evaluateLogged {kind : NumberKind} {options : Options}
    {source : Variables kind.Value} {expression : String}
    (hliteral : kind.arithmetic.literal? expression = none) (log : List Event) :
    (evaluateLogged kind options source expression).runFrom log =
      match (evaluateStages kind.arithmetic options source expression).runFrom log with
      | (.ok x, after) => (.ok x, after)
      | (.error failure, after) =>
        (.error failure, after ++ [.failed kind expression failure]) := by
  simp only [evaluateLogged, hliteral]
  rw [runFrom_tryCatch]
  rcases (evaluateStages kind.arithmetic options source expression).runFrom log with
    ⟨failure | x, after⟩
  · simp [runFrom_bind]
  · rfl

/-- The value of an expression that is not a literal is what the stages give. -/
theorem evaluate_eq_stages {kind : NumberKind} {options : Options} {source : Variables kind.Value}
    {expression : String} (hliteral : kind.arithmetic.literal? expression = none) :
    evaluate kind options source expression =
      (evaluateStages kind.arithmetic options source expression).result := by
  rw [evaluate, result_eq_runFrom, runFrom_evaluateLogged hliteral, result_eq_runFrom]
  rcases (evaluateStages kind.arithmetic options source expression).runFrom [] with
    ⟨failure | x, log⟩ <;> rfl

/-- The value of an expression that is not a literal, from its tokens on. -/
theorem evaluate_eq_bind {kind : NumberKind} {options : Options} {source : Variables kind.Value}
    {expression : String} (hliteral : kind.arithmetic.literal? expression = none) :
    evaluate kind options source expression =
      Postfix.ofTokens options (Token.resolve options (Expression.tokens options expression)) >>=
        fun form => evaluateTerms kind.arithmetic (form.map (Term.ofToken source)) := by
  rw [evaluate_eq_stages hliteral, result_evaluateStages_eq_bind]

/-- A literal is its own value. -/
theorem evaluate_literal {kind : NumberKind} {options : Options} {source : Variables kind.Value}
    {expression : String} {x : kind.Value}
    (hliteral : kind.arithmetic.literal? expression = some x) :
    evaluate kind options source expression = .ok x := by
  simp only [evaluate, evaluateLogged, hliteral, result_eq_runFrom]
  rfl

end Calculator
