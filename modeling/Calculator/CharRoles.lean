import Calculator.Operator

/-!
# Roles of characters

Parentheses and the symbols of binary operators end an operand. These are the roles that a
character can play outside operands; a set of roles has one bit for each.
-/

namespace Calculator

/-- A set of roles. -/
structure CharRoles where
  opening : Bool
  closing : Bool
  binary : Bool
deriving DecidableEq

namespace CharRoles

/-- The roles that the lowest three bits stand for; higher bits have no meaning. -/
def ofBits (bits : Nat) : CharRoles :=
  ⟨bits.testBit 0, bits.testBit 1, bits.testBit 2⟩

/-- The roles as bits: 1 for opening, 2 for closing, 4 for a binary operator. -/
def bits (roles : CharRoles) : Nat :=
  roles.opening.toNat + 2 * roles.closing.toNat + 4 * roles.binary.toNat

/-- The roles of a character. -/
def ofChar (c : Char) : CharRoles :=
  ⟨c == '(', c == ')', (Operator.written? c).isSome⟩

/-- Whether there is any role, so that the character is a token by itself. -/
def isControl (roles : CharRoles) : Bool :=
  roles.opening || roles.closing || roles.binary

end CharRoles

end Calculator
