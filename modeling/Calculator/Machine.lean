import Calculator.Number.Arithmetic
import Calculator.Term

/-!
# The stack machine

Postfix forms are evaluated on a stack of values. An operand is pushed; an operator takes its
operands off the stack, the right one first, and pushes its result. At the end exactly one value
must be left. The first failure ends the run. A machine may be used again: it forgets what an
earlier run left behind.
-/

namespace Calculator

/-- A stack of values, the last pushed value first. -/
abbrev Stack (α : Type) : Type :=
  List α

namespace Stack

variable {α : Type}

/-- The stack after an operator at the given position. -/
def apply (A : Arithmetic α) (op : Operator) (position : Nat) (stack : Stack α) :
    Except Failure (Stack α) :=
  match Operation.ofSymbol? op.symbol with
  | none => .error (.unknownOperand (String.singleton op.symbol) position)
  | some .negate =>
    match stack with
    | x :: below => push (A.negate x) below
    | [] => .error (.tooFewOperands op.symbol position 1 0)
  | some (.binary operation) =>
    match stack with
    | right :: left :: below => push (A.combine operation left right) below
    | few => .error (.tooFewOperands op.symbol position 2 few.length)
where
  /-- The stack with the result of an operation on it. -/
  push (result : Except Fault α) (below : Stack α) : Except Failure (Stack α) :=
    match result with
    | .ok x => .ok (x :: below)
    | .error fault => .error (fault.at op.symbol position)

/-- The stack after a term. -/
def step (A : Arithmetic α) (stack : Stack α) : Term α → Except Failure (Stack α)
  | .value x _ => .ok (x :: stack)
  | .token token =>
    match token.kind with
    | .operand =>
      match A.literal? token.text with
      | some x => .ok (x :: stack)
      | none => .error (.unknownOperand token.text token.position)
    | .opening => .error (.strayParenthesis token.position '(')
    | .closing => .error (.strayParenthesis token.position ')')
    | .operator op => apply A op token.position stack

/-- What is left of a stack on which a step failed. Operands that an operation took before it
faulted do not come back; every other failure is found before a value is taken. -/
def afterFailure (stack : Stack α) : Failure → Stack α
  | .zeroDivisor _ => stack.drop 2
  | .outOfRange symbol _ =>
    stack.drop (((Operation.ofSymbol? symbol).map Operation.arity).getD 0)
  | _ => stack

/-- The value that a run gives if it ends with this stack. -/
def result : Stack α → Except Failure α
  | [] => .error .noValue
  | [x] => .ok x
  | stack => .error (.tooManyValues stack.length)

end Stack

/-- A machine with the values that its last run left behind. -/
structure Machine (α : Type) where
  stack : Stack α

namespace Machine

variable {α : Type}

/-- A machine that has not been used. -/
def new : Machine α :=
  ⟨[]⟩

/-- The machine without the values of earlier runs. -/
def clear (machine : Machine α) : Machine α :=
  { machine with stack := [] }

/-- Evaluates terms on top of the values that are there. A value that is the result leaves the
stack; a failure leaves values behind. -/
def feed (A : Arithmetic α) (machine : Machine α) :
    List (Term α) → Except Failure α × Machine α
  | [] =>
    match machine.stack.result with
    | .ok x => (.ok x, { machine with stack := [] })
    | .error failure => (.error failure, machine)
  | term :: rest =>
    match machine.stack.step A term with
    | .ok stack => feed A { machine with stack } rest
    | .error failure => (.error failure, ⟨machine.stack.afterFailure failure⟩)

/-- The value of a postfix form, and the machine after the run. -/
def run (A : Arithmetic α) (machine : Machine α) (terms : List (Term α)) :
    Except Failure α × Machine α :=
  machine.clear.feed A terms

/-- The results of running several postfix forms on one machine, in their order. -/
def runAll (A : Arithmetic α) : Machine α → List (List (Term α)) → List (Except Failure α)
  | _, [] => []
  | machine, terms :: rest =>
    let (result, next) := machine.run A terms
    result :: next.runAll A rest

end Machine

/-- The value of a postfix form. -/
def evaluateTerms {α : Type} (A : Arithmetic α) (terms : List (Term α)) : Except Failure α :=
  (Machine.new.run A terms).1

end Calculator
