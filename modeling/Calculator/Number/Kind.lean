import Calculator.Number.FloatingPoint
import Calculator.Number.Word

/-!
# Kinds of numbers

An expression is evaluated in one of four kinds: machine integers or floating-point numbers, of
32 or 64 bits.
-/

namespace Calculator

/-- A kind of numbers that expressions are evaluated in. -/
inductive NumberKind
  | int32
  | int64
  | float32
  | float64
deriving DecidableEq

namespace NumberKind

/-- All kinds. -/
def all : List NumberKind := [int32, int64, float32, float64]

/-- The short name of a kind. -/
def name : NumberKind → String
  | int32 => "i32"
  | int64 => "i64"
  | float32 => "f32"
  | float64 => "f64"

/-- The name of a kind in stored data. -/
def tag : NumberKind → String
  | int32 => "I32"
  | int64 => "I64"
  | float32 => "F32"
  | float64 => "F64"

/-- Whether the numbers of a kind are integers. -/
def isInteger : NumberKind → Bool
  | int32 | int64 => true
  | float32 | float64 => false

/-- The type of the numbers of a kind. -/
def Value : NumberKind → Type
  | int32 => BitVec 32
  | int64 => BitVec 64
  | float32 => Float32
  | float64 => Float

instance : DecidableEq int32.Value :=
  inferInstanceAs (DecidableEq (BitVec 32))

/-- The arithmetic of a kind. -/
def arithmetic : (kind : NumberKind) → Arithmetic kind.Value
  | int32 => Word.arithmetic 32
  | int64 => Word.arithmetic 64
  | float32 => FloatingPoint.arithmetic Float32
  | float64 => FloatingPoint.arithmetic Float

end NumberKind

end Calculator
