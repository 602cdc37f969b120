import Calculator.Failure
import Calculator.Number.Kind
import Calculator.Text.Quoted
import Calculator.Token

/-!
# The log

Evaluation records its stages: the tokens, the postfix form, every variable that is substituted
and, at last, a failure. The log of a computation is kept also if the computation fails.
-/

namespace Calculator

/-- A stage of an evaluation that is recorded. -/
inductive Event
  /-- The tokens of an expression with its minus signs resolved. -/
  | tokens (expression : String) (found : List Token)
  /-- The tokens of an expression in postfix form. -/
  | arranged (expression : String) (form : List Token)
  /-- A variable was replaced by a value, given as text. -/
  | substituted (name value : String)
  /-- The evaluation of an expression failed. -/
  | failed (kind : NumberKind) (expression : String) (failure : Failure)
deriving DecidableEq

/-- How much attention a log record deserves. -/
inductive Level
  | debug
  | trace
deriving DecidableEq

namespace Event

/-- Failures are for debugging, the other stages for tracing. -/
def level : Event → Level
  | failed .. => .debug
  | _ => .trace

/-- The text of a log record. -/
def message : Event → String
  | tokens expression found =>
    "tokens of " ++ Text.quote expression ++ ": " ++ Token.render found
  | arranged expression form =>
    "postfix of " ++ Text.quote expression ++ ": " ++ Token.render form
  | substituted name value => "substituted " ++ name ++ " = " ++ value
  | failed kind expression failure =>
    kind.name ++ " evaluation of " ++ Text.quote expression ++ " failed: " ++ failure.message

end Event

/-- A computation that keeps a log and may fail. -/
abbrev Logged (α : Type) : Type :=
  ExceptT Failure (StateM (List Event)) α

namespace Logged

variable {α : Type}

/-- Writes a record at the end of the log. -/
def record (event : Event) : Logged Unit :=
  modify (· ++ [event])

/-- What a computation gives, and its log. -/
def run (computation : Logged α) : Except Failure α × List Event :=
  StateT.run (ExceptT.run computation) []

/-- What a computation gives. -/
def result (computation : Logged α) : Except Failure α :=
  computation.run.1

/-- The log of a computation. -/
def log (computation : Logged α) : List Event :=
  computation.run.2

end Logged

end Calculator
