/-!
# Options

The options settle three questions about expressions that are not quite well formed. By default
evaluation is permissive.
-/

namespace Calculator

/-- How an expression that is not quite well formed is read. -/
structure Options where
  /-- Whether an unmatched parenthesis is an error of the conversion to postfix form. -/
  strict : Bool := false
  /-- Whether operators that dangle at the end of the expression are dropped. -/
  dropDangling : Bool := true
  /-- Whether a minus sign behind a closing parenthesis subtracts; otherwise it negates. -/
  subtractAfterClosing : Bool := false
deriving DecidableEq

end Calculator
