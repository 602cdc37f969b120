import Calculator.Machine
import Calculator.Log
import Calculator.Postfix

/-!
# Evaluation of expressions

A text that is a literal is its own value. Any other text is split into tokens, its minus signs
are resolved, the tokens are brought into postfix form, variables are replaced by their values and
the result is evaluated on a stack. The first failure ends the evaluation.
-/

namespace Calculator

/-- The postfix form of an expression. -/
def Postfix.ofExpression (options : Options) (expression : String) : Logged (List Token) := do
  let tokens := Token.resolve options (Expression.tokens options expression)
  if tokens.isEmpty then throw .noValue
  Logged.record (.tokens expression tokens)
  let form ← MonadExcept.ofExcept (Postfix.ofTokens options tokens)
  Logged.record (.arranged expression form)
  return form

/-- The text of the postfix form of an expression under the default options. -/
def Postfix.render (expression : String) : Except Failure String :=
  Token.render <$> (Postfix.ofExpression {} expression).result

/-- The terms of a postfix form under a source of variables. -/
def Term.substitute {α : Type} (A : Arithmetic α) (source : Variables α)
    (form : List Token) : Logged (List (Term α)) :=
  form.mapM fun token => do
    if let some x := Term.lookup? source token then
      Logged.record (.substituted token.text (A.text x))
    return Term.ofToken source token

/-- The value of an expression that is not read as a literal. -/
def evaluateStages {α : Type} (A : Arithmetic α) (options : Options) (source : Variables α)
    (expression : String) : Logged α := do
  let form ← Postfix.ofExpression options expression
  let terms ← Term.substitute A source form
  MonadExcept.ofExcept (evaluateTerms A terms)

/-- The value of an expression, with the log of its evaluation. -/
def evaluateLogged (kind : NumberKind) (options : Options) (source : Variables kind.Value)
    (expression : String) : Logged kind.Value := do
  if let some x := kind.arithmetic.literal? expression then return x
  try evaluateStages kind.arithmetic options source expression
  catch failure =>
    Logged.record (.failed kind expression failure)
    throw failure

/-- The value of an expression. -/
def evaluate (kind : NumberKind) (options : Options) (source : Variables kind.Value)
    (expression : String) : Except Failure kind.Value :=
  (evaluateLogged kind options source expression).result

/-- Whether an expression has a value under the default options, and that value; zero stands in
if there is none. -/
def evaluateOrZero (kind : NumberKind) (source : Variables kind.Value) (expression : String) :
    Bool × kind.Value :=
  match evaluate kind {} source expression with
  | .ok x => (true, x)
  | .error _ => (false, kind.arithmetic.zero)

/-- The values of one postfix form under several sources of variables, on one machine. -/
def evaluatePrepared {α : Type} (A : Arithmetic α) (form : List Token)
    (sources : List (Variables α)) : List (Except Failure α) :=
  Machine.new.runAll A (sources.map fun source => form.map (Term.ofToken source))

end Calculator
