import Calculator.Proofs.Machine.OperatorTree

/-!
# Steps that fail

A step of the stack machine fails at an operand that is no literal, at a parenthesis, at an operator
without an operation, at one that lacks operands, and at one whose operation faults. This file
states these causes as a relation and proves that there are no others.
-/

namespace Calculator.Stack

variable {α : Type} {A : Arithmetic α}

/-- What a step that fails does: no case leaves another failure than the one that it names. -/
inductive Fails (A : Arithmetic α) : Stack α → Term α → Failure → Prop
  | operand {text : String} (position : Nat) (stack : Stack α) (hnone : A.literal? text = none) :
      Fails A stack (.token ⟨.operand, text, position⟩) (.unknownOperand text position)
  | opening (text : String) (position : Nat) (stack : Stack α) :
      Fails A stack (.token ⟨.opening, text, position⟩) (.strayParenthesis position '(')
  | closing (text : String) (position : Nat) (stack : Stack α) :
      Fails A stack (.token ⟨.closing, text, position⟩) (.strayParenthesis position ')')
  | meaningless {op : Operator} (text : String) (position : Nat) (stack : Stack α)
      (hnone : Operation.ofSymbol? op.symbol = none) :
      Fails A stack (.token ⟨.operator op, text, position⟩)
        (.unknownOperand (String.singleton op.symbol) position)
  | tooFew {operation : Operation} (sign : OperatorToken operation) {stack : Stack α}
      (hfew : stack.length < operation.arity) :
      Fails A stack sign.term
        (.tooFewOperands sign.op.symbol sign.position operation.arity stack.length)
  | negation (sign : OperatorToken .negate) {x : α} {fault : Fault} (below : Stack α)
      (hfault : A.negate x = .error fault) :
      Fails A (x :: below) sign.term (fault.at sign.op.symbol sign.position)
  | binary {operation : BinaryOperation} (sign : OperatorToken (.binary operation)) {x y : α}
      {fault : Fault} (below : Stack α) (hfault : A.combine operation x y = .error fault) :
      Fails A (y :: x :: below) sign.term (fault.at sign.op.symbol sign.position)

/-- An operator that fails has no operation, lacks operands or faults. -/
theorem fails_of_apply {op : Operator} {text : String} {position : Nat} {stack : Stack α}
    {failure : Failure} (happly : apply A op position stack = .error failure) :
    Fails A stack (.token ⟨.operator op, text, position⟩) failure := by
  unfold apply at happly
  split at happly
  · rename_i hmeans
    cases happly
    exact .meaningless text position stack hmeans
  · rename_i hmeans
    let sign : OperatorToken .negate := ⟨op, text, position, hmeans⟩
    split at happly
    · rename_i x below
      cases hnegate : A.negate x with
      | ok y => rw [hnegate] at happly; cases happly
      | error fault =>
        rw [hnegate] at happly
        cases happly
        exact .negation sign below hnegate
    · cases happly
      exact .tooFew sign Nat.one_pos
  · rename_i operation hmeans
    let sign : OperatorToken (.binary operation) := ⟨op, text, position, hmeans⟩
    split at happly
    · rename_i y x below
      cases hcombine : A.combine operation x y with
      | ok z => rw [hcombine] at happly; cases happly
      | error fault =>
        rw [hcombine] at happly
        cases happly
        exact .binary sign below hcombine
    · rename_i few
      cases happly
      refine .tooFew sign ?_
      rcases stack with _ | ⟨y, _ | ⟨x, below⟩⟩
      · exact Nat.two_pos
      · exact Nat.one_lt_two
      · exact absurd rfl (few y x below)

/-- Every step that fails does so for one of these causes. -/
theorem fails_of_step {stack : Stack α} {term : Term α} {failure : Failure}
    (hstep : step A stack term = .error failure) : Fails A stack term failure := by
  cases term with
  | value x position => cases hstep
  | token token =>
    obtain ⟨kind, text, position⟩ := token
    cases kind with
    | operand =>
      simp only [step] at hstep
      split at hstep
      · cases hstep
      · rename_i hnone
        cases hstep
        exact .operand position stack hnone
    | opening =>
      cases hstep
      exact .opening text position stack
    | closing =>
      cases hstep
      exact .closing text position stack
    | operator op => exact fails_of_apply hstep

/-- Each of these causes makes a step fail. -/
theorem Fails.step_eq {stack : Stack α} {term : Term α} {failure : Failure}
    (hfails : Fails A stack term failure) : step A stack term = .error failure := by
  cases hfails with
  | operand position stack hnone => simp only [step, hnone]
  | opening => rfl
  | closing => rfl
  | meaningless text position stack hnone => simp only [step, apply, hnone]
  | @tooFew operation sign stack hfew =>
    simp only [step, OperatorToken.term, apply, sign.means]
    cases operation with
    | negate =>
      obtain rfl : stack = [] := List.length_eq_zero_iff.mp (Nat.lt_one_iff.mp hfew)
      rfl
    | binary operation =>
      rcases stack with _ | ⟨y, _ | ⟨x, below⟩⟩
      · rfl
      · rfl
      · exact absurd hfew (by simp [Operation.arity])
  | negation sign below hfault => rw [step_negation, hfault]; rfl
  | binary sign below hfault => rw [step_binary, hfault]; rfl

end Calculator.Stack
