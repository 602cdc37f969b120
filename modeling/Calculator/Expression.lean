import Calculator.Options
import Calculator.Token.Scanner

/-!
# Expressions

An expression is a text. Evaluation looks at it without the blanks around it and, if the options
say so, without the operators that dangle at its end. Positions count from the start of the
trimmed text.
-/

namespace Calculator.Expression

/-- A text without the copies of its last character, if that is the symbol of a binary operator.
What is left may again end in a blank. -/
def dropDangling (text : List Char) : List Char :=
  match text.getLast? with
  | some c => if (CharRoles.ofChar c).binary then Text.dropTrailing (· == c) text else text
  | none => text

/-- The part of an expression that is evaluated. -/
def trimmed (options : Options) (expression : String) : List Char :=
  let text := Text.trim expression.toList
  if options.dropDangling then dropDangling text else text

/-- The tokens of an expression; every minus sign is still the binary operator. -/
def tokens (options : Options) (expression : String) : List Token :=
  (Scanner.ofList (trimmed options expression)).tokens

end Calculator.Expression
