import Calculator.Number.FloatingPoint

/-!
# Closeness

Two floating-point results count as equal if they differ by less than a tolerance. Infinities of
one sign are equal, and so are two results that are not numbers.
-/

namespace Calculator.FloatingPoint

variable {α : Type} [FloatingPoint α]

/-- The usual tolerance: a millionth in single precision, a ten-billionth otherwise. -/
def tolerance (α : Type) [FloatingPoint α] : α :=
  if format α = .single then ofDecimal 1 (-6) else ofDecimal 1 (-10)

/-- Whether two numbers differ by less than a tolerance. -/
def isWithin (tolerance left right : α) : Bool :=
  less (abs (subtract left right)) tolerance

/-- Whether two results count as equal. -/
def isClose (tolerance left right : α) : Bool :=
  match decode left, decode right with
  | .nan, .nan => true
  | .infinite true, .infinite true => true
  | .infinite false, .infinite false => true
  | _, _ => isWithin tolerance left right

/-- The text that reports two results that do not count as equal. -/
def farMessage (tolerance left right : α) : String :=
  "assertion failed: `(left ≈ right)` (left: `" ++ text left ++ "`, right: `" ++ text right ++
    "`, epsilon: `" ++ text tolerance ++ "`)"

/-- Asks for two results that count as equal; otherwise the answer is `message?` or, if there is
none, a report of the two. -/
def checkClose (tolerance left right : α) (message? : Option String) : Except String Unit :=
  if isClose tolerance left right then .ok ()
  else .error (message?.getD (farMessage tolerance left right))

end Calculator.FloatingPoint
