import Calculator.Number.Arithmetic
import Calculator.Number.Decimal
import Calculator.Number.Shortest

/-!
# Floating-point numbers

Both precisions share one arithmetic. It follows the rules of their formats and never faults:
what has no value is not a number. Decimal texts are rounded once, to the nearest number.
-/

namespace Calculator

/-- A type of floating-point numbers with its format, its bit patterns and its operations, which
round to the nearest number of the format. -/
class FloatingPoint (α : Type) where
  format : Binary.Format
  toBits : α → Nat
  ofBits : Nat → α
  /-- The number nearest to `significand * 10 ^ exponent`, or to `significand / 10 ^ exponent` if
  the flag is set. -/
  ofScientific : (significand : Nat) → Bool → (exponent : Nat) → α
  negate : α → α
  add : α → α → α
  subtract : α → α → α
  multiply : α → α → α
  divide : α → α → α
  power : α → α → α
  less : α → α → Bool
  abs : α → α

/-- Double precision. -/
instance : FloatingPoint Float where
  format := .double
  toBits x := x.toBits.toNat
  ofBits bits := Float.ofBits (UInt64.ofNat bits)
  ofScientific := Float.ofScientific
  negate := Float.neg
  add := Float.add
  subtract := Float.sub
  multiply := Float.mul
  divide := Float.div
  power := Float.pow
  less x y := decide (x < y)
  abs := Float.abs

/-- Single precision. -/
instance : FloatingPoint Float32 where
  format := .single
  toBits x := x.toBits.toNat
  ofBits bits := Float32.ofBits (UInt32.ofNat bits)
  ofScientific := Float32.ofScientific
  negate := Float32.neg
  add := Float32.add
  subtract := Float32.sub
  multiply := Float32.mul
  divide := Float32.div
  power := Float32.pow
  less x y := decide (x < y)
  abs := Float32.abs

namespace FloatingPoint

variable {α : Type} [FloatingPoint α]

/-- The bit pattern of a number, read by its format. -/
def decode (x : α) : Binary :=
  (format α).decode (toBits x)

/-- The number with the given meaning. -/
def encode (x : Binary) : α :=
  ofBits ((format α).encode x)

/-- A decimal exponent beyond which every positive number of the formats is infinite or, with
the opposite sign, zero. -/
def exponentLimit : Int := 400

/-- The number nearest to `significand * 10 ^ exponent`. Exponents far beyond the range are
settled without computing the power; `significand` is below `2 ^ (log2 significand + 1)`. -/
def ofDecimal (significand : Nat) (exponent : Int) : α :=
  if significand = 0 ∨ exponent + significand.log2 + 1 < -exponentLimit then
    encode (.finite false 0 0)
  else if exponentLimit < exponent then encode (.infinite false)
  else ofScientific significand (decide (exponent < 0)) exponent.natAbs

/-- The number with the given sign. -/
def signed (negative : Bool) (x : α) : α :=
  if negative then negate x else x

/-- The number nearest to a numeral. -/
def ofNumeral : Decimal.Numeral → α
  | .nan => encode .nan
  | .infinite negative => signed negative (encode (.infinite false))
  | .finite negative significand exponent => signed negative (ofDecimal significand exponent)

/-- The result of an operation. -/
def combine (operation : BinaryOperation) (x y : α) : α :=
  match operation with
  | .add => add x y
  | .subtract => subtract x y
  | .multiply => multiply x y
  | .divide => divide x y
  | .modulo => encode ((decode x).remainder (decode y))
  | .power => power x y

/-- The shortest text that is read back as the number. -/
def text (x : α) : String :=
  (decode x).text (format α)

/-- Reads a floating-point number in its plain notation. -/
def read? (text : List Char) : Option α :=
  (Decimal.Numeral.read? text).map ofNumeral

/-- The arithmetic of floating-point numbers. A literal that has no plain notation is read once
more as it stands, so that `inf` is a literal in spite of its last letter. -/
def arithmetic (α : Type) [FloatingPoint α] : Arithmetic α where
  zero := ofBits 0
  read? := read?
  literal? text := read? (plainNotation text.toList) <|> read? (Text.trim text.toList)
  text := text
  negate x := .ok (negate x)
  combine operation x y := .ok (combine operation x y)

end FloatingPoint

end Calculator
