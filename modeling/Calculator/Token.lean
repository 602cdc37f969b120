import Calculator.Operator

/-!
# Tokens

A token is an operand, a parenthesis or an operator, with its text and its place in the
expression. What an operand means is decided when it is evaluated.
-/

namespace Calculator

/-- What a token stands for. -/
inductive Token.Kind
  | operand
  | opening
  | closing
  | operator (op : Operator)
deriving DecidableEq

/-- A token with the text it was written with and the index of its first character. -/
structure Token where
  kind : Token.Kind
  text : String
  position : Nat
deriving DecidableEq

namespace Token

/-- The token as it is shown: negation has a symbol of its own. -/
def shown (token : Token) : String :=
  match token.kind with
  | .operand => token.text
  | .opening => "("
  | .closing => ")"
  | .operator op => String.singleton op.symbol

/-- Whether the token is a minus sign that has not become negation. -/
def isSubtraction (token : Token) : Bool :=
  match token.kind with
  | .operator op => op.symbol == '-'
  | _ => false

/-- Whether the token is an opening parenthesis. -/
def isOpening (token : Token) : Bool :=
  match token.kind with
  | .opening => true
  | _ => false

/-- The operator of an operator token. -/
def operator? (token : Token) : Option Operator :=
  match token.kind with
  | .operator op => some op
  | _ => none

/-- Tokens as shown, separated by spaces. -/
def render (tokens : List Token) : String :=
  String.intercalate " " (tokens.map shown)

end Token

end Calculator
