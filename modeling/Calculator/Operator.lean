/-!
# Operators

An operator is a symbol together with its precedence, the number of its operands and the side to
which equal precedences group. The language has six binary operators and one negation.
-/

namespace Calculator

/-- The side to which operators of equal precedence group. -/
inductive Associativity
  | left
  | right
deriving DecidableEq

/-- An operator symbol with the rules by which it binds; a higher precedence binds tighter. -/
structure Operator where
  symbol : Char
  precedence : Nat
  arity : Nat
  associativity : Associativity
deriving DecidableEq

namespace Operator

/-- Negation is written `-` in expressions; its own symbol `~` separates it from subtraction. -/
def negation : Operator := ⟨'~', 4, 1, .left⟩

/-- The operators of the language, one for each symbol. -/
def table : List Operator :=
  [⟨'-', 2, 2, .left⟩, ⟨'+', 2, 2, .left⟩, ⟨'/', 3, 2, .left⟩, ⟨'*', 3, 2, .left⟩,
    ⟨'%', 3, 2, .left⟩, ⟨'^', 4, 2, .right⟩, negation]

/-- The operator with the given symbol. -/
def ofSymbol? (symbol : Char) : Option Operator :=
  table.find? (·.symbol == symbol)

/-- The operator that the given character of an expression stands for. Only binary operators
can be written; a minus sign becomes negation by its place. -/
def written? (symbol : Char) : Option Operator :=
  (ofSymbol? symbol).filter (·.arity == 2)

/-- Whether the operator takes one operand. -/
def isUnary (op : Operator) : Bool :=
  op.arity == 1

/-- Whether `op` waits until the pending operator `top` has taken its operands: `top` binds
tighter, or equally tight and `op` groups to the left. -/
def waitsFor (op top : Operator) : Bool :=
  match op.associativity with
  | .left => decide (op.precedence ≤ top.precedence)
  | .right => decide (op.precedence < top.precedence)

end Operator

end Calculator
