/-!
# Decimal notation

Whole numbers are an optional sign and digits. Real numbers may also have a decimal point and an
exponent; infinity and not-a-number are written as words in any letter case. Only the digits
`0` to `9` count.
-/

namespace Calculator.Decimal

/-- Whether a number is written with a minus sign, and what stands behind its sign. -/
def takeSign : List Char → Bool × List Char
  | '-' :: rest => (true, rest)
  | '+' :: rest => (false, rest)
  | text => (false, text)

/-- The number that one or more digits stand for. -/
def readDigits? (text : List Char) : Option Nat :=
  if text ≠ [] ∧ text.all Char.isDigit then some (Nat.ofDigitChars 10 text 0) else none

/-- The integer that is written as an optional sign and digits. -/
def readInt? (text : List Char) : Option Int :=
  let (negative, digits) := takeSign text
  (readDigits? digits).map fun n => if negative then -(n : Int) else n

/-- The sign and digits of an integer. -/
def writeInt : Int → String
  | .ofNat n => n.repr
  | .negSucc n => "-" ++ (n + 1).repr

/-- What a real number is written as. -/
inductive Numeral
  | nan
  | infinite (negative : Bool)
  /-- The number `significand * 10 ^ exponent`, or its opposite. -/
  | finite (negative : Bool) (significand : Nat) (exponent : Int)
deriving DecidableEq

/-- The decimal exponent that is written behind the digits, zero if there is none. -/
def readExponent? : List Char → Option Int
  | [] => some 0
  | c :: rest => if c = 'e' ∨ c = 'E' then readInt? rest else none

/-- The digits of a fraction behind its point, and what stands behind them. -/
def takeFraction : List Char → List Char × List Char
  | '.' :: rest => (rest.takeWhile Char.isDigit, rest.dropWhile Char.isDigit)
  | text => ([], text)

/-- Reads a real number without its sign. -/
def readMagnitude? (negative : Bool) (text : List Char) : Option Numeral :=
  let word := text.map Char.toLower
  if word = "nan".toList then some .nan
  else if word = "inf".toList ∨ word = "infinity".toList then some (.infinite negative)
  else
    let whole := text.takeWhile Char.isDigit
    let (fraction, rest) := takeFraction (text.dropWhile Char.isDigit)
    match readDigits? (whole ++ fraction), readExponent? rest with
    | some significand, some exponent =>
      some (.finite negative significand (exponent - fraction.length))
    | _, _ => none

/-- Reads a real number. -/
def Numeral.read? (text : List Char) : Option Numeral :=
  let (negative, rest) := takeSign text
  readMagnitude? negative rest

end Calculator.Decimal
