import Calculator.Evaluation

/-!
# Calls with byte strings

A caller from outside hands over byte strings, any of which may be missing, and a place for the
result, which may be missing too. A byte string ends before its first zero byte and must be valid
UTF-8. The answer is a status: a code, a position and the beginning of a message. On failure the
result is zero. Codes are positive if the evaluation failed and negative if the inputs cannot be
read.
-/

namespace Calculator

/-- Bytes up to the first zero byte, or as far as there are any. -/
abbrev ByteString : Type :=
  List UInt8

/-- The text that a byte string encodes. -/
def ByteString.decode? (bytes : ByteString) : Option String :=
  String.fromUTF8? ⟨(bytes.takeWhile (· ≠ 0)).toArray⟩

/-- Why the inputs of a call cannot be read. -/
inductive InputFault
  | missingOutput
  | missingExpression
  | missingArray
  | missingName
  | invalidText
deriving DecidableEq

namespace InputFault

/-- The code of a fault, always negative. -/
def code : InputFault → Int
  | invalidText => -2
  | _ => -1

/-- The text that reports a fault. -/
def message : InputFault → String
  | missingOutput => "Null output pointer"
  | missingExpression => "Null expression"
  | missingArray => "Null variable array"
  | missingName => "Null variable name"
  | invalidText => "Invalid UTF-8 in input"

end InputFault

/-- The answer to a call besides the result. -/
structure Status where
  code : Int
  /-- The position of the token to blame, or `-1`. -/
  position : Int
  /-- The beginning of the message. -/
  message : ByteString
deriving DecidableEq

namespace Status

/-- The largest position that a status can tell. -/
def maxPosition : Nat := 2147483647

/-- The number of bytes that a message has room for. -/
def messageRoom : Nat := 127

/-- As many bytes of a text as there is room for; a character may be cut. -/
def messageOf (text : String) : ByteString :=
  text.toUTF8.toList.take messageRoom

/-- The status of an evaluation with a value. -/
def success : Status :=
  ⟨0, -1, []⟩

/-- The status of an evaluation without a value. -/
def ofFailure (failure : Failure) : Status where
  code := failure.code
  position :=
    match failure.position? with
    | some position => if position ≤ maxPosition then position else -1
    | none => -1
  message := messageOf failure.message

/-- The status of a call whose inputs cannot be read. -/
def ofFault (fault : InputFault) : Status :=
  ⟨fault.code, -1, messageOf fault.message⟩

end Status

/-- The inputs of a call. Arrays of names and values hold at least `count` elements. -/
structure Call (kind : NumberKind) where
  expression : Option ByteString
  names : Option (List (Option ByteString))
  values : Option (List kind.Value)
  count : Nat
  /-- Whether there is a place for the result. -/
  hasOutput : Bool

namespace Call

variable {kind : NumberKind}

/-- The text of a byte string that may be missing. -/
def readText (missing : InputFault) : Option ByteString → Except InputFault String
  | none => .error missing
  | some bytes =>
    match bytes.decode? with
    | some text => .ok text
    | none => .error .invalidText

/-- The variables of a call as pairs. -/
def readVariables (call : Call kind) : Except InputFault (List (String × kind.Value)) :=
  if call.count = 0 then .ok []
  else
    match call.names, call.values with
    | some names, some values =>
      ((names.zip values).take call.count).mapM fun (name, value) =>
        (readText .missingName name).map (·, value)
    | _, _ => .error .missingArray

/-- The variables and the expression of a call. Of several faults the variables come first, then
the place for the result and then the expression. -/
def read (call : Call kind) : Except InputFault (List (String × kind.Value) × String) := do
  let pairs ← call.readVariables
  if !call.hasOutput then throw .missingOutput
  let expression ← readText .missingExpression call.expression
  return (pairs, expression)

/-- The status and the result of a call. -/
def answer (call : Call kind) : Status × kind.Value :=
  match call.read with
  | .error fault => (.ofFault fault, kind.arithmetic.zero)
  | .ok (pairs, expression) =>
    match evaluate kind {} (Variables.ofList pairs) expression with
    | .ok x => (.success, x)
    | .error failure => (.ofFailure failure, kind.arithmetic.zero)

/-- The status of a call, and what is written to the place for the result if there is one. -/
def run (call : Call kind) : Status × Option kind.Value :=
  let (status, x) := call.answer
  (status, if call.hasOutput then some x else none)

end Call

end Calculator
