/-!
# Binary floating-point formats

A format is given by the widths of its fraction and its exponent. Every bit pattern stands for a
whole multiple of a power of two, an infinity or no number; signs and payloads of the last are
not told apart. Remainder and truncation are exact, since they work on these multiples.
-/

namespace Calculator

/-- What a floating-point number is. -/
inductive Binary
  | nan
  | infinite (negative : Bool)
  /-- The number `significand * 2 ^ exponent`, or its opposite; zero has both signs. -/
  | finite (negative : Bool) (significand : Nat) (exponent : Int)
deriving DecidableEq

/-- A binary interchange format by the widths of its fields. -/
structure Binary.Format where
  fractionBits : Nat
  exponentBits : Nat
deriving DecidableEq

namespace Binary.Format

/-- The format with 32 bits. -/
def single : Format := ⟨23, 8⟩

/-- The format with 64 bits. -/
def double : Format := ⟨52, 11⟩

/-- The largest value of the exponent field, which marks infinities and what is no number. -/
def maxField (format : Format) : Nat :=
  Nat.pow 2 format.exponentBits - 1

/-- The exponent of the smallest positive number. -/
def minExponent (format : Format) : Int :=
  2 - Nat.pow 2 (format.exponentBits - 1) - format.fractionBits

/-- The number that a bit pattern stands for. -/
def decode (format : Format) (bits : Nat) : Binary :=
  let fraction := bits % Nat.pow 2 format.fractionBits
  let field := bits / Nat.pow 2 format.fractionBits % Nat.pow 2 format.exponentBits
  let negative := bits.testBit (format.fractionBits + format.exponentBits)
  if field = format.maxField then
    if fraction = 0 then .infinite negative else .nan
  else if field = 0 then .finite negative fraction format.minExponent
  else
    .finite negative (Nat.pow 2 format.fractionBits + fraction) (format.minExponent + (field - 1))

/-- The bits without the sign of `significand * 2 ^ exponent`, which must be a number of the
format: the significand is widened to its full length as far as the exponent allows. -/
def magnitudeBits (format : Format) (significand : Nat) (exponent : Int) : Nat :=
  let shift := min (format.fractionBits - significand.log2) (exponent - format.minExponent).toNat
  let wide := significand * Nat.pow 2 shift
  wide + (exponent - shift - format.minExponent).toNat * Nat.pow 2 format.fractionBits

/-- The bit pattern of a number of the format. -/
def encode (format : Format) : Binary → Nat
  | .nan => format.maxField * Nat.pow 2 format.fractionBits + Nat.pow 2 (format.fractionBits - 1)
  | .infinite negative => signBit negative + format.maxField * Nat.pow 2 format.fractionBits
  | .finite negative 0 _ => signBit negative
  | .finite negative significand exponent =>
    signBit negative + format.magnitudeBits significand exponent
where
  /-- The sign in its place. -/
  signBit (negative : Bool) : Nat :=
    negative.toNat * Nat.pow 2 (format.fractionBits + format.exponentBits)

end Binary.Format

namespace Binary

/-- What is left of `x` after taking away `y` as often as its magnitude allows. The sign is that
of `x`, also for zero. -/
def remainder : Binary → Binary → Binary
  | finite negative m e, finite _ n f =>
    if n = 0 then nan
    else
      let unit := min e f
      finite negative (m * Nat.pow 2 (e - unit).toNat % (n * Nat.pow 2 (f - unit).toNat)) unit
  | finite negative m e, infinite _ => finite negative m e
  | _, _ => nan

/-- The integer part of a finite number. -/
def integerPart (negative : Bool) (significand : Nat) (exponent : Int) : Int :=
  let magnitude := significand * Nat.pow 2 exponent.toNat / Nat.pow 2 (-exponent).toNat
  if negative then -(magnitude : Int) else magnitude

/-- The integer between two bounds that is nearest to the integer part of a number; no number
gives zero. -/
def clamp (low high : Int) : Binary → Int
  | nan => 0
  | infinite negative => if negative then low else high
  | finite negative significand exponent =>
    max low (min high (integerPart negative significand exponent))

end Binary

end Calculator
