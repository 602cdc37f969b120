import Calculator.Evaluation

/-!
# A tour

A few lines that show what the calculator does: kinds, the postfix form, variables and failures.
-/

namespace Calculator.Tour

/-- The value of an expression as text, or why there is none. -/
def valueText (kind : NumberKind) (source : Variables kind.Value) (expression : String) :
    String :=
  match evaluate kind {} source expression with
  | .ok x => kind.arithmetic.text x
  | .error failure => failure.message

/-- One expression in two kinds. -/
def kindsLine (expression : String) : String :=
  expression ++ " = " ++ valueText .int32 Variables.none expression ++ " (i32), " ++
    valueText .float64 Variables.none expression ++ " (f64)"

/-- The postfix form of an expression. -/
def postfixLine (expression : String) : String :=
  match Postfix.render expression with
  | .ok form => expression ++ " in postfix: " ++ form
  | .error failure => "conversion failed: " ++ failure.message

/-- The sides of a triangle. -/
def triangle : Std.HashMap String Float :=
  Std.HashMap.ofList [("width", 12.5), ("height", 4)]

/-- The area of the triangle. -/
def areaLine : String :=
  "triangle area = " ++
    valueText .float64 (Variables.ofHashMap triangle) "width * height / 2"

/-- Whether an expression has a value, and that value. -/
def flagLine (expression : String) : String :=
  let (success, x) := evaluateOrZero .int32 Variables.none expression
  expression ++ " -> success: " ++ (if success then "true" else "false") ++ ", value: " ++
    NumberKind.int32.arithmetic.text x

/-- Why an expression has no value; no line if it has one. -/
def failureLines (expression : String) : List String :=
  match evaluate .int64 {} Variables.none expression with
  | .ok _ => []
  | .error failure =>
    [expression ++ " -> " ++ failure.message ++ " (code " ++ failure.code.repr ++ ")"]

/-- The lines of the tour. -/
def lines : List String :=
  [kindsLine "7/2 + 3*4", postfixLine "-(1+2)^2", areaLine, flagLine "2+*3"] ++
    failureLines "10 / (5 - 5)"

end Calculator.Tour
