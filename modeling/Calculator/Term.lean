import Calculator.Token
import Calculator.Variables

/-!
# Terms

A term of a postfix form is a token or, where an operand names a variable, that variable's
value. A name is looked up before it is read as a literal.
-/

namespace Calculator

/-- An item of a postfix form that is ready to be evaluated. -/
inductive Term (α : Type)
  | token (token : Token)
  | value (value : α) (position : Nat)
deriving DecidableEq

namespace Term

variable {α : Type}

/-- The value of the variable that a token names. -/
def lookup? (source : Variables α) (token : Token) : Option α :=
  match token.kind with
  | .operand => source token.text
  | _ => none

/-- The token, or the value of the variable that it names. -/
def ofToken (source : Variables α) (token : Token) : Term α :=
  match lookup? source token with
  | some x => value x token.position
  | none => Term.token token

end Term

end Calculator
