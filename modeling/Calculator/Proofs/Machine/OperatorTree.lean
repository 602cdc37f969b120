import Calculator.Proofs.Machine.Run
import Mathlib.Data.List.Forall2

/-!
# Operator trees

An operator tree says which operands each operator has. Its postorder is a postfix form, and its
value is found by recursion: the left operand first, then the right one, then the operator. This
file proves that the stack machine gives a value exactly for postorders of operator trees, that
the tree is determined by its postorder, and that the value is the value of the tree.
-/

namespace Calculator

/-- An operator token whose symbol stands for the given operation. Precedence, arity and side of
the operator are arbitrary. -/
structure OperatorToken (operation : Operation) where
  op : Operator
  text : String
  position : Nat
  means : Operation.ofSymbol? op.symbol = some operation

namespace OperatorToken

variable {operation : Operation} {α : Type}

/-- The operator token as a term of a postfix form. -/
def term (sign : OperatorToken operation) : Term α :=
  .token ⟨.operator sign.op, sign.text, sign.position⟩

/-- The outcome of the operation, with the operator to blame for a fault. -/
def settle (sign : OperatorToken operation) (outcome : Except Fault α) : Except Failure α :=
  outcome.mapError (Fault.at sign.op.symbol sign.position)

/-- Operator tokens are determined by their terms. -/
theorem term_injective : Function.Injective (@term operation α) := by
  rintro ⟨op, text, position, hop⟩ ⟨op', text', position', hop'⟩ heq
  simp only [term, Term.token.injEq, Token.mk.injEq, Token.Kind.operator.injEq] at heq
  obtain ⟨rfl, rfl, rfl⟩ := heq
  rfl

/-- A term is an operator of one operation only. -/
theorem operation_eq_of_term_eq {other : Operation} {sign : OperatorToken operation}
    {sign' : OperatorToken other} (heq : (sign.term : Term α) = sign'.term) :
    operation = other := by
  simp only [term, Term.token.injEq, Token.mk.injEq, Token.Kind.operator.injEq] at heq
  have hmeans := sign.means
  rw [heq.1, sign'.means] at hmeans
  exact (Option.some.inj hmeans).symm

/-- A settled outcome is a value exactly if the outcome is. -/
theorem settle_eq_ok_iff {sign : OperatorToken operation} {outcome : Except Fault α} {x : α} :
    sign.settle outcome = .ok x ↔ outcome = .ok x :=
  mapError_eq_ok_iff _

end OperatorToken

/-- A tree of operators over values and operands that are yet to be read. -/
inductive OperatorTree (α : Type)
  | value (x : α) (position : Nat)
  | operand (text : String) (position : Nat)
  | negation (sign : OperatorToken .negate) (body : OperatorTree α)
  | binary (operation : BinaryOperation) (sign : OperatorToken (.binary operation))
      (left right : OperatorTree α)

namespace OperatorTree

variable {α : Type} {A : Arithmetic α}

/-- The terms of a tree, every operator behind its operands. -/
def postorder : OperatorTree α → List (Term α)
  | value x position => [.value x position]
  | operand text position => [.token ⟨.operand, text, position⟩]
  | negation sign body => body.postorder ++ [sign.term]
  | binary _ sign left right => left.postorder ++ right.postorder ++ [sign.term]

/-- The value of an operand, which must be a literal. -/
def operandValue (A : Arithmetic α) (text : String) (position : Nat) : Except Failure α :=
  match A.literal? text with
  | some x => .ok x
  | none => .error (.unknownOperand text position)

/-- The value of an operand is the number that the literal stands for. -/
theorem operandValue_eq_ok_iff {text : String} {position : Nat} {x : α} :
    operandValue A text position = .ok x ↔ A.literal? text = some x := by
  rw [operandValue]
  cases A.literal? text <;> simp

/-- The value of a tree: the left operand, then the right one, then the operator. The first
failure ends the evaluation. -/
def eval (A : Arithmetic α) : OperatorTree α → Except Failure α
  | value x _ => .ok x
  | operand text position => operandValue A text position
  | negation sign body => do
    let x ← body.eval A
    sign.settle (A.negate x)
  | binary operation sign left right => do
    let x ← left.eval A
    let y ← right.eval A
    sign.settle (A.combine operation x y)

end OperatorTree

namespace Stack

variable {α : Type} {A : Arithmetic α}

open OperatorTree

/-- What a step that succeeds does: it pushes the value of a term, or an operator with an
operation takes its operands off the stack and pushes the result. -/
inductive Reads (A : Arithmetic α) : Stack α → Term α → Stack α → Prop
  | value (x : α) (position : Nat) (stack : Stack α) :
      Reads A stack (.value x position) (x :: stack)
  | operand {text : String} {position : Nat} {x : α} (stack : Stack α)
      (hx : operandValue A text position = .ok x) :
      Reads A stack (.token ⟨.operand, text, position⟩) (x :: stack)
  | negation (sign : OperatorToken .negate) {x y : α} (below : Stack α)
      (hy : sign.settle (A.negate x) = .ok y) :
      Reads A (x :: below) sign.term (y :: below)
  | binary {operation : BinaryOperation} (sign : OperatorToken (.binary operation)) {x y z : α}
      (below : Stack α) (hz : sign.settle (A.combine operation x y) = .ok z) :
      Reads A (y :: x :: below) sign.term (z :: below)

/-- An operand is pushed if it is a literal. -/
theorem step_operand (text : String) (position : Nat) (stack : Stack α) :
    step A stack (.token ⟨.operand, text, position⟩) =
      operandValue A text position >>= fun x => .ok (x :: stack) := by
  simp only [step, operandValue]
  cases A.literal? text <;> rfl

/-- A negation replaces the value on top of the stack. -/
theorem step_negation (sign : OperatorToken .negate) (x : α) (below : Stack α) :
    step A (x :: below) sign.term =
      sign.settle (A.negate x) >>= fun y => .ok (y :: below) := by
  simp only [step, OperatorToken.term, apply, sign.means, OperatorToken.settle]
  cases A.negate x <;> rfl

/-- A binary operator replaces its two operands, the right one of which is on top. -/
theorem step_binary {operation : BinaryOperation} (sign : OperatorToken (.binary operation))
    (x y : α) (below : Stack α) :
    step A (y :: x :: below) sign.term =
      sign.settle (A.combine operation x y) >>= fun z => .ok (z :: below) := by
  simp only [step, OperatorToken.term, apply, sign.means, OperatorToken.settle]
  cases A.combine operation x y <;> rfl

/-- An operator that succeeds has an operation and found its operands. -/
theorem reads_of_apply {op : Operator} {text : String} {position : Nat} {stack next : Stack α}
    (happly : apply A op position stack = .ok next) :
    Reads A stack (.token ⟨.operator op, text, position⟩) next := by
  have hsettle {operation : Operation} {outcome : Except Fault α} {below : Stack α}
      (sign : OperatorToken operation) (hop : sign.op = op) (hposition : sign.position = position)
      (h : apply.push op position outcome below = .ok next) :
      ∃ x, sign.settle outcome = .ok x ∧ next = x :: below := by
    subst hop hposition
    cases outcome with
    | error fault => cases h
    | ok x => exact ⟨x, rfl, by cases h; rfl⟩
  unfold apply at happly
  split at happly
  · cases happly
  · rename_i hmeans
    let sign : OperatorToken .negate := ⟨op, text, position, hmeans⟩
    split at happly
    · obtain ⟨y, hy, rfl⟩ := hsettle sign rfl rfl happly
      exact .negation sign _ hy
    · cases happly
  · rename_i operation hmeans
    let sign : OperatorToken (.binary operation) := ⟨op, text, position, hmeans⟩
    split at happly
    · obtain ⟨z, hz, rfl⟩ := hsettle sign rfl rfl happly
      exact .binary sign _ hz
    · cases happly

/-- Every step that succeeds is one of the four. -/
theorem reads_of_step {stack next : Stack α} {term : Term α}
    (hstep : step A stack term = .ok next) : Reads A stack term next := by
  cases term with
  | value x position =>
    cases hstep
    exact .value x position stack
  | token token =>
    obtain ⟨kind, text, position⟩ := token
    cases kind with
    | operand =>
      rw [step_operand, bind_eq_ok_iff] at hstep
      obtain ⟨x, hx, hnext⟩ := hstep
      cases hnext
      exact .operand stack hx
    | opening => cases hstep
    | closing => cases hstep
    | operator op => exact reads_of_apply hstep

/-- Each of the four is a step. -/
theorem Reads.step_eq {stack next : Stack α} {term : Term α} (hreads : Reads A stack term next) :
    step A stack term = .ok next := by
  cases hreads with
  | value x position => rfl
  | operand _ hx => rw [step_operand, hx, ok_bind]
  | negation sign below hy => rw [step_negation, hy, ok_bind]
  | binary sign below hz => rw [step_binary, hz, ok_bind]

/-- A run over the postorder of a tree pushes the value of the tree. -/
theorem run_postorder (tree : OperatorTree α) (stack : Stack α) (rest : List (Term α)) :
    run A stack (tree.postorder ++ rest) =
      tree.eval A >>= fun x => run A (x :: stack) rest := by
  induction tree generalizing stack rest with
  | value x position => rfl
  | operand text position =>
    simp only [postorder, List.cons_append, List.nil_append, run_cons, step_operand, eval]
    cases operandValue A text position <;> rfl
  | negation sign body ih =>
    simp only [postorder, List.append_assoc, List.cons_append, List.nil_append, ih, eval]
    cases body.eval A with
    | error failure => rfl
    | ok x =>
      simp only [ok_bind, run_cons, step_negation]
      cases sign.settle (A.negate x) <;> rfl
  | binary operation sign left right ihleft ihright =>
    simp only [postorder, List.append_assoc, List.cons_append, List.nil_append, ihleft, ihright,
      eval]
    cases left.eval A with
    | error failure => rfl
    | ok x =>
      cases right.eval A with
      | error failure => rfl
      | ok y =>
        simp only [ok_bind, run_cons, step_binary]
        cases sign.settle (A.combine operation x y) <;> rfl

/-- The values on the stack are the values of these trees, the tree of the last pushed value
first. -/
def Holds (A : Arithmetic α) (forest : List (OperatorTree α)) (stack : Stack α) : Prop :=
  List.Forall₂ (fun tree x => tree.eval A = .ok x) forest stack

/-- The postorders of the trees on a stack, in the order in which they were read. -/
def readTerms (forest : List (OperatorTree α)) : List (Term α) :=
  forest.reverse.flatMap postorder

/-- A term that is read becomes part of a tree on the stack, whose values stay the values of the
trees. -/
theorem Holds.step {forest : List (OperatorTree α)} {stack next : Stack α} {term : Term α}
    (hforest : Holds A forest stack) (hreads : Reads A stack term next) :
    ∃ grown, Holds A grown next ∧ readTerms grown = readTerms forest ++ [term] := by
  cases hreads with
  | value x position =>
    refine ⟨.value x position :: forest, .cons rfl hforest, ?_⟩
    simp [readTerms, postorder]
  | operand _ hx =>
    refine ⟨.operand _ _ :: forest, .cons hx hforest, ?_⟩
    simp [readTerms, postorder]
  | negation sign below hy =>
    obtain _ | @⟨body, x, trees, _, hbody, htrees⟩ := hforest
    refine ⟨.negation sign body :: trees, .cons ?_ htrees, ?_⟩
    · simp only [eval, hbody, ok_bind, hy]
    · simp [readTerms, postorder]
  | binary sign below hz =>
    obtain _ | @⟨right, y, _, _, hright, _ | @⟨left, x, trees, _, hleft, htrees⟩⟩ := hforest
    refine ⟨.binary _ sign left right :: trees, .cons ?_ htrees, ?_⟩
    · simp only [eval, hleft, hright, ok_bind, hz]
    · simp [readTerms, postorder]

/-- Every run that reaches the end leaves the values of trees whose postorders are the terms that
it read. -/
theorem Holds.run {forest : List (OperatorTree α)} {stack final : Stack α}
    {terms : List (Term α)} (hforest : Holds A forest stack)
    (hrun : run A stack terms = .ok final) :
    ∃ grown, Holds A grown final ∧ readTerms grown = readTerms forest ++ terms := by
  induction terms generalizing forest stack with
  | nil =>
    cases hrun
    exact ⟨forest, hforest, (List.append_nil _).symm⟩
  | cons term rest ih =>
    rw [run_cons, bind_eq_ok_iff] at hrun
    obtain ⟨next, hstep, hrest⟩ := hrun
    obtain ⟨between, hbetween, hread⟩ := hforest.step (reads_of_step hstep)
    obtain ⟨grown, hgrown, hterms⟩ := ih hbetween hrest
    exact ⟨grown, hgrown, by rw [hterms, hread, List.append_assoc]; rfl⟩

end Stack

namespace OperatorTree

variable {α : Type} {A : Arithmetic α}

/-- Two trees whose postorders end a list of terms in the same way are the same. -/
theorem eq_of_append_postorder_eq {first second : List (Term α)} {tree other : OperatorTree α}
    (heq : first ++ tree.postorder = second ++ other.postorder) :
    first = second ∧ tree = other := by
  induction tree generalizing first second other with
  | value x position =>
    cases other <;>
      simp_all [postorder, ← List.append_assoc, List.append_singleton_inj, OperatorToken.term]
  | operand text position =>
    cases other <;>
      simp_all [postorder, ← List.append_assoc, List.append_singleton_inj, OperatorToken.term]
  | negation sign body ih =>
    simp only [postorder, ← List.append_assoc] at heq
    cases other with
    | value | operand =>
      simp only [postorder, List.append_singleton_inj] at heq
      simp [OperatorToken.term] at heq
    | negation sign' body' =>
      simp only [postorder, ← List.append_assoc, List.append_singleton_inj] at heq
      obtain ⟨hbody, hsign⟩ := heq
      obtain rfl := OperatorToken.term_injective hsign
      obtain ⟨rfl, rfl⟩ := ih hbody
      exact ⟨rfl, rfl⟩
    | binary operation sign' =>
      simp only [postorder, ← List.append_assoc, List.append_singleton_inj] at heq
      cases OperatorToken.operation_eq_of_term_eq heq.2
  | binary operation sign left right ihleft ihright =>
    simp only [postorder, ← List.append_assoc] at heq
    cases other with
    | value | operand =>
      simp only [postorder, List.append_singleton_inj] at heq
      simp [OperatorToken.term] at heq
    | negation sign' =>
      simp only [postorder, ← List.append_assoc, List.append_singleton_inj] at heq
      cases OperatorToken.operation_eq_of_term_eq heq.2
    | binary operation' sign' left' right' =>
      simp only [postorder, ← List.append_assoc, List.append_singleton_inj] at heq
      obtain ⟨hoperands, hsign⟩ := heq
      cases OperatorToken.operation_eq_of_term_eq hsign
      obtain rfl := OperatorToken.term_injective hsign
      obtain ⟨hleft, rfl⟩ := ihright hoperands
      obtain ⟨rfl, rfl⟩ := ihleft hleft
      exact ⟨rfl, rfl⟩

/-- A tree is determined by its postorder. -/
theorem postorder_injective : Function.Injective (@postorder α) := fun _ _ heq =>
  (eq_of_append_postorder_eq (congrArg ([] ++ ·) heq)).2

/-- The stack machine finds the value of a tree on its postorder. -/
theorem evaluateTerms_postorder (A : Arithmetic α) (tree : OperatorTree α) :
    evaluateTerms A tree.postorder = tree.eval A := by
  have hrun := @Stack.run_postorder α A tree [] []
  rw [List.append_nil] at hrun
  rw [Stack.evaluateTerms_eq_run, hrun]
  cases tree.eval A <;> rfl

/-- A postfix form has a value exactly if it is the postorder of a tree that has this value. -/
theorem evaluateTerms_eq_ok_iff {terms : List (Term α)} {x : α} :
    evaluateTerms A terms = .ok x ↔
      ∃ tree : OperatorTree α, tree.postorder = terms ∧ tree.eval A = .ok x := by
  rw [Stack.evaluateTerms_eq_ok_iff_run]
  constructor
  · intro hrun
    obtain ⟨forest, hforest, hread⟩ := Stack.Holds.run List.Forall₂.nil hrun
    obtain _ | ⟨hx, _ | _⟩ := hforest
    exact ⟨_, by simpa [Stack.readTerms] using hread, hx⟩
  · rintro ⟨tree, rfl, hx⟩
    rw [← Stack.evaluateTerms_eq_ok_iff_run, evaluateTerms_postorder, hx]

end OperatorTree

open OperatorTree Stack in
/-- In every arithmetic, the stack machine gives a value exactly for the postorder of an operator
tree with that value, and there is no other tree with this postorder. A failure at a term does not
depend on the terms behind it; that there is no value, or more than one, is found behind the last
term. -/
theorem evaluateTerms_characterized {α : Type} (A : Arithmetic α) (terms : List (Term α)) :
    (∀ x, evaluateTerms A terms = .ok x ↔
      ∃ tree : OperatorTree α, tree.postorder = terms ∧ tree.eval A = .ok x ∧
        ∀ other : OperatorTree α, other.postorder = terms → other = tree) ∧
    (∀ read term failure, StopsAt A read term failure →
      (∀ rest, evaluateTerms A (read ++ term :: rest) = .error failure) ∧
        failure ≠ .noValue ∧ ∀ count, failure ≠ .tooManyValues count) ∧
    ∀ failure, evaluateTerms A terms = .error failure →
      (∃ read term rest, terms = read ++ term :: rest ∧ StopsAt A read term failure) ∨
      ∃ stack, Stack.run A [] terms = .ok stack ∧
        (stack = [] ∧ failure = .noValue ∨
          2 ≤ stack.length ∧ failure = .tooManyValues stack.length) := by
  refine ⟨fun x => ?_, fun read term failure hstop => ?_, fun failure hfailure => ?_⟩
  · rw [evaluateTerms_eq_ok_iff]
    constructor
    · rintro ⟨tree, htree, hx⟩
      exact ⟨tree, htree, hx, fun other hother => postorder_injective (hother.trans htree.symm)⟩
    · rintro ⟨tree, htree, hx, -⟩
      exact ⟨tree, htree, hx⟩
  · exact ⟨hstop.evaluateTerms_eq, hstop.ne_noValue⟩
  · rw [evaluateTerms_eq_run] at hfailure
    cases hrun : Stack.run A [] terms with
    | error found =>
      have heq : found = failure := by simpa [hrun] using hfailure
      obtain ⟨read, term, rest, reached, hsplit, hread, hterm⟩ := run_eq_error_iff.mp hrun
      exact .inl ⟨read, term, rest, hsplit, reached, hread, by rw [hterm, heq]⟩
    | ok stack =>
      rw [hrun, ok_bind] at hfailure
      refine .inr ⟨stack, rfl, ?_⟩
      rcases stack with _ | ⟨top, _ | ⟨next, below⟩⟩ <;> cases hfailure
      · exact .inl ⟨rfl, rfl⟩
      · exact .inr ⟨by simp, rfl⟩

end Calculator
