import Calculator.Datum
import Calculator.Failure
import Calculator.Operator
import Calculator.Options

/-!
# Stored forms

Operators, options and failures as structured data. Options are also read: from a record, in which
fields may be missing and unknown ones are ignored, or from a list of at most three flags in the
order of the fields. What is missing has its standard value.
-/

namespace Calculator

/-- The name of a side in stored data. -/
def Associativity.tag : Associativity → String
  | left => "Left"
  | right => "Right"

/-- An operator as a record. -/
def Operator.toDatum (op : Operator) : Datum :=
  .fields
    [("symbol", .text (String.singleton op.symbol)), ("precedence", .number op.precedence),
      ("arity", .number op.arity), ("associativity", .text op.associativity.tag)]

namespace Options

/-- Options as a record. -/
def toDatum (options : Options) : Datum :=
  .fields
    [("strict_parentheses", .flag options.strict),
      ("trim_trailing_operator", .flag options.dropDangling),
      ("binary_minus_after_close", .flag options.subtractAfterClosing)]

/-- Options from the fields of a record. -/
def ofFields? (entries : List (String × Datum)) : Option Options := do
  let standard : Options := {}
  let strict ← Datum.flagField? entries "strict_parentheses" standard.strict
  let trim ← Datum.flagField? entries "trim_trailing_operator" standard.dropDangling
  let minus ←
    Datum.flagField? entries "binary_minus_after_close" standard.subtractAfterClosing
  return ⟨strict, trim, minus⟩

/-- Options from flags in the order of the fields. -/
def ofFlags? : List Bool → Option Options
  | [] => some {}
  | [strict] => some { strict := strict }
  | [strict, trim] => some { strict := strict, dropDangling := trim }
  | [strict, trim, minus] => some ⟨strict, trim, minus⟩
  | _ => none

/-- Options from stored data; none if the data are not options. -/
def ofDatum? : Datum → Option Options
  | .fields entries => ofFields? entries
  | .list items => (items.mapM Datum.flag?).bind ofFlags?
  | _ => none

end Options

namespace Failure

/-- The name of the cause in stored data. -/
def tag : Failure → String
  | noValue => "Empty"
  | unknownOperand .. => "InvalidOperand"
  | tooFewOperands .. => "MissingOperand"
  | strayParenthesis .. => "UnmatchedParenthesis"
  | zeroDivisor .. => "DivideByZero"
  | outOfRange .. => "Overflow"
  | tooManyValues .. => "LeftoverOperands"

/-- What is known about the cause, field by field. -/
def details : Failure → List (String × Datum)
  | noValue => []
  | unknownOperand text position => [("text", .text text), ("position", .number position)]
  | tooFewOperands symbol position expected found =>
    [("operator", .text (String.singleton symbol)), ("position", .number position),
      ("expected", .number expected), ("found", .number found)]
  | strayParenthesis position found =>
    [("position", .number position), ("found", .text (String.singleton found))]
  | zeroDivisor position => [("position", .number position)]
  | outOfRange symbol position =>
    [("operator", .text (String.singleton symbol)), ("position", .number position)]
  | tooManyValues count => [("count", .number count)]

/-- A failure as the name of its cause or, if there are details, a record of them under that
name. -/
def toDatum (failure : Failure) : Datum :=
  match failure.details with
  | [] => .text failure.tag
  | details => .fields [(failure.tag, .fields details)]

end Failure

end Calculator
