import Calculator.Options
import Calculator.Token

/-!
# Negation

A minus sign negates if it has no left operand: at the start, behind an operator, behind an
opening parenthesis and, unless the options say otherwise, behind a closing one.
-/

namespace Calculator.Token

/-- Whether a minus sign behind a token of the given kind, if there is one, has no left
operand. -/
def negatesAfter (options : Options) : Option Kind → Bool
  | none => true
  | some (.operator _) => true
  | some .opening => true
  | some .closing => !options.subtractAfterClosing
  | some .operand => false

/-- The token, made negation if it is a minus sign without a left operand. Text and position
stay. -/
def resolveAfter (options : Options) (previous : Option Kind) (token : Token) : Token :=
  if token.isSubtraction && negatesAfter options previous then
    { token with kind := .operator Operator.negation }
  else token

/-- The tokens behind a token of kind `previous`, with every minus sign resolved. -/
def resolveFrom (options : Options) (previous : Option Kind) : List Token → List Token
  | [] => []
  | token :: rest =>
    let resolved := resolveAfter options previous token
    resolved :: resolveFrom options (some resolved.kind) rest

/-- The tokens of an expression with every minus sign resolved. -/
def resolve (options : Options) (tokens : List Token) : List Token :=
  resolveFrom options none tokens

end Calculator.Token
