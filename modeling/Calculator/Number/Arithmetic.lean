import Calculator.Failure
import Calculator.Text.Blank

/-!
# Arithmetic

An arithmetic says how the numbers of one kind are read, written and combined. Literals may end
in the suffix `f` and may have a decimal comma; both are removed before the number is read, unless
a kind has its own way to read literals.
-/

namespace Calculator

/-- An operation on two numbers. -/
inductive BinaryOperation
  | add
  | subtract
  | multiply
  | divide
  | modulo
  | power
deriving DecidableEq

/-- An operation that evaluation can apply. -/
inductive Operation
  | negate
  | binary (operation : BinaryOperation)
deriving DecidableEq

namespace Operation

/-- The operation of an operator symbol; precedence and grouping play no part. -/
def ofSymbol? : Char → Option Operation
  | '~' => some negate
  | '+' => some (binary .add)
  | '-' => some (binary .subtract)
  | '*' => some (binary .multiply)
  | '/' => some (binary .divide)
  | '%' => some (binary .modulo)
  | '^' => some (binary .power)
  | _ => none

/-- How many operands an operation takes. -/
def arity : Operation → Nat
  | negate => 1
  | binary _ => 2

end Operation

/-- The plain notation that a literal stands for: without the blanks around it, without the
suffixes `f` at its end and with points for commas. -/
def plainNotation (text : List Char) : List Char :=
  (Text.dropTrailing (· == 'f') (Text.trim text)).map fun c => if c = ',' then '.' else c

/-- How numbers of type `α` are read, written and combined. -/
structure Arithmetic (α : Type) where
  /-- The value that stands in where there is no result. -/
  zero : α
  /-- Reads a number in its plain notation. -/
  read? : List Char → Option α
  /-- The number that a literal stands for; none if the text is no literal. -/
  literal? : String → Option α := fun text => read? (plainNotation text.toList)
  /-- The plain notation of a number. -/
  text : α → String
  /-- The number with the opposite sign. -/
  negate : α → Except Fault α
  /-- The result of an operation on a left and a right operand. -/
  combine : BinaryOperation → α → α → Except Fault α

end Calculator
