import Calculator.Number.Arithmetic
import Calculator.Number.Binary
import Calculator.Number.Decimal

/-!
# Machine integers

A word of `w` bits is a signed integer from `-2 ^ (w - 1)` to `2 ^ (w - 1) - 1`. Arithmetic on
words is checked: an operation whose result leaves this range faults. Division truncates toward
zero, and a remainder has the sign of the dividend. A remainder faults together with its
quotient. Powers are computed in floating point, cut to an integer and kept in range.
-/

namespace Calculator.Word

/-- The smallest integer of a word. -/
def minimum (w : Nat) : Int :=
  -(Nat.pow 2 (w - 1) : Nat)

/-- The largest integer of a word. -/
def maximum (w : Nat) : Int :=
  (Nat.pow 2 (w - 1) : Nat) - 1

/-- Reads an integer in the range of a word. -/
def read? (w : Nat) (text : List Char) : Option (BitVec w) :=
  (Decimal.readInt? text).bind fun n =>
    if minimum w ≤ n ∧ n ≤ maximum w then some (BitVec.ofInt w n) else none

/-- The value of a checked operation. -/
def checked {α : Type} (overflows : Bool) (result : α) : Except Fault α :=
  if overflows then .error .outOfRange else .ok result

/-- A power in floating point, cut to an integer and kept in range. -/
def power {w : Nat} (x y : BitVec w) : BitVec w :=
  let real := (Float.ofInt x.toInt).pow (Float.ofInt y.toInt)
  BitVec.ofInt w ((Binary.Format.double.decode real.toBits.toNat).clamp (minimum w) (maximum w))

/-- The checked result of an operation on two words. -/
def combine {w : Nat} (operation : BinaryOperation) (x y : BitVec w) : Except Fault (BitVec w) :=
  match operation with
  | .add => checked (x.saddOverflow y) (x + y)
  | .subtract => checked (x.ssubOverflow y) (x - y)
  | .multiply => checked (x.smulOverflow y) (x * y)
  | .divide => if y = 0 then .error .zeroDivisor else checked (x.sdivOverflow y) (x.sdiv y)
  | .modulo => if y = 0 then .error .zeroDivisor else checked (x.sdivOverflow y) (x.srem y)
  | .power => .ok (power x y)

/-- The arithmetic of signed words. -/
def arithmetic (w : Nat) : Arithmetic (BitVec w) where
  zero := 0
  read? := read? w
  text x := Decimal.writeInt x.toInt
  negate x := checked x.negOverflow (-x)
  combine := combine

end Calculator.Word
