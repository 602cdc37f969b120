/-!
# Failures

An evaluation fails for one of seven causes. Each failure has a message, a stable status code and,
where one token is to blame, that token's position.
-/

namespace Calculator

/-- Why an evaluation failed. -/
inductive Failure
  /-- The expression holds no token, or evaluation left no value. -/
  | noValue
  /-- An operand is neither a variable nor a literal, or an operator has no operation. -/
  | unknownOperand (text : String) (position : Nat)
  /-- An operator found fewer operands than it takes. -/
  | tooFewOperands (symbol : Char) (position expected found : Nat)
  /-- A parenthesis has no partner. -/
  | strayParenthesis (position : Nat) (found : Char)
  /-- A whole number was divided by zero. -/
  | zeroDivisor (position : Nat)
  /-- A whole number left the range of its kind. -/
  | outOfRange (symbol : Char) (position : Nat)
  /-- Evaluation left more than one value. -/
  | tooManyValues (count : Nat)
deriving DecidableEq

namespace Failure

/-- The status code of a failure, always positive. -/
def code : Failure → Nat
  | noValue => 1
  | unknownOperand .. => 2
  | tooFewOperands .. => 3
  | strayParenthesis .. => 4
  | zeroDivisor .. => 5
  | outOfRange .. => 6
  | tooManyValues .. => 7

/-- The position of the token to blame. -/
def position? : Failure → Option Nat
  | noValue => none
  | unknownOperand _ position => some position
  | tooFewOperands _ position _ _ => some position
  | strayParenthesis position _ => some position
  | zeroDivisor position => some position
  | outOfRange _ position => some position
  | tooManyValues _ => none

/-- The text that reports a failure. -/
def message : Failure → String
  | noValue => "Empty expression"
  | unknownOperand text position =>
    "Invalid operand '" ++ text ++ "' at position " ++ position.repr
  | tooFewOperands symbol position expected found =>
    "Operator '" ++ String.singleton symbol ++ "' at position " ++ position.repr ++
      " expects " ++ expected.repr ++ " operands, found " ++ found.repr
  | strayParenthesis position found =>
    "Unmatched parenthesis at position " ++ position.repr ++
      ": found '" ++ String.singleton found ++ "'"
  | zeroDivisor position => "Division by zero at position " ++ position.repr
  | outOfRange symbol position =>
    "Integer overflow in '" ++ String.singleton symbol ++ "' at position " ++ position.repr
  | tooManyValues count => "Expression left " ++ count.repr ++ " values on the stack"

end Failure

/-- Why a single arithmetic operation failed. -/
inductive Fault
  | zeroDivisor
  | outOfRange
deriving DecidableEq

/-- The failure that a fault becomes at the operator where it arose. -/
def Fault.at (symbol : Char) (position : Nat) : Fault → Failure
  | zeroDivisor => .zeroDivisor position
  | outOfRange => .outOfRange symbol position

end Calculator
