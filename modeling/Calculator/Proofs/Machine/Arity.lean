import Calculator.Proofs.Machine.OperatorTree
import Mathlib.Algebra.BigOperators.Group.List.Basic
import Mathlib.Algebra.GroupWithZero.Nat

/-!
# Arities of postfix forms

Whether a run of the stack machine finds enough operands, and how many values it leaves behind,
depends on the arities of its terms only. A run over terms that never lack an operand succeeds in
an arithmetic without faults. One such arithmetic takes for its numbers the arities of the terms
that they come from, so that it tells different postfix forms apart.
-/

namespace Calculator

variable {α : Type}

/-- How many values a token takes off the stack if it is an operand or an operator with an
operation. -/
def Token.arity (token : Token) : Nat :=
  match token.kind with
  | .operator op => ((Operation.ofSymbol? op.symbol).map Operation.arity).getD 0
  | _ => 0

namespace Term

/-- How many values a term takes off the stack. -/
def arity : Term α → Nat
  | value _ _ => 0
  | token item => item.arity

/-- The arities of the terms of a postfix form. -/
def arities (terms : List (Term α)) : List Nat :=
  terms.map arity

/-- The value of a variable takes as little off the stack as its name. -/
theorem arity_ofToken (source : Variables α) (token : Token) :
    (ofToken source token).arity = token.arity := by
  unfold ofToken lookup?
  obtain ⟨kind, text, position⟩ := token
  cases kind with
  | operand =>
    simp only
    split <;> rfl
  | opening | closing | operator => rfl

/-- Without variables every token stays as it is. -/
theorem ofToken_none (token : Token) :
    ofToken (Variables.none : Variables α) token = .token token := by
  obtain ⟨kind, text, position⟩ := token
  cases kind <;> rfl

/-- The arities of a postfix form do not depend on the variables. -/
theorem arities_ofToken (source : Variables α) (form : List Token) :
    arities (form.map (ofToken source)) = form.map Token.arity := by
  simp [arities, arity_ofToken]

end Term

namespace Stack

variable {A : Arithmetic α}

/-- How many values must be on the stack so that terms of these arities never lack an operand. -/
def needed : List Nat → Nat
  | [] => 0
  | arity :: rest => max arity (needed rest + arity - 1)

/-- The sum, over the operators, of the number of operands that come before; `before` of them
come before all terms. -/
def delay (before : Nat) : List Nat → Nat
  | [] => 0
  | 0 :: rest => delay (before + 1) rest
  | (_ + 1) :: rest => before + delay before rest

/-- An operator takes as many values as its operation has operands. -/
@[simp] theorem arity_term {operation : Operation} (sign : OperatorToken operation) :
    (sign.term : Term α).arity = operation.arity := by
  simp [Term.arity, Token.arity, OperatorToken.term, sign.means]

/-- A step takes the operands of its term off the stack and puts one value there. -/
theorem Reads.length {stack next : Stack α} {term : Term α} (hreads : Reads A stack term next) :
    term.arity ≤ stack.length ∧ next.length + term.arity = stack.length + 1 := by
  cases hreads with
  | value x position => simp [Term.arity]
  | operand => simp [Term.arity, Token.arity]
  | negation sign below hy => simp [Operation.arity]
  | binary sign below hz => simp [Operation.arity]

/-- A run that succeeds found all operands, and the arities of its terms say how many values it
leaves behind. -/
theorem length_run {stack final : Stack α} {terms : List (Term α)}
    (hrun : run A stack terms = .ok final) :
    needed (Term.arities terms) ≤ stack.length ∧
      final.length + (Term.arities terms).sum = stack.length + terms.length := by
  induction terms generalizing stack with
  | nil =>
    cases hrun
    exact ⟨Nat.zero_le _, rfl⟩
  | cons term rest ih =>
    rw [run_cons, bind_eq_ok_iff] at hrun
    obtain ⟨next, hstep, hrest⟩ := hrun
    obtain ⟨htaken, hnext⟩ := (reads_of_step hstep).length
    obtain ⟨hneeded, hlength⟩ := ih hrest
    simp only [Term.arities, List.map_cons, List.sum_cons, List.length_cons, needed] at *
    omega

/-- What two lists of terms need, one behind the other. -/
theorem needed_append (first second : List Nat) :
    needed (first ++ second) =
      max (needed first) (needed second + first.sum - first.length) := by
  induction first with
  | nil => simp [needed]
  | cons arity rest ih =>
    simp only [List.cons_append, needed, ih, List.sum_cons, List.length_cons]
    omega

/-- The delay of two lists of terms, one behind the other. -/
theorem delay_append (before : Nat) (first second : List Nat) :
    delay before (first ++ second) =
      delay before first + delay (before + first.count 0) second := by
  induction first generalizing before with
  | nil => simp [delay]
  | cons arity rest ih =>
    cases arity with
    | zero =>
      rw [List.cons_append, delay, delay, ih, List.count_cons_self]
      congr 2
      omega
    | succ arity =>
      rw [List.cons_append, delay, delay, ih, List.count_cons_of_ne (by simp), Nat.add_assoc]

/-- Operators take at least one value each. -/
theorem length_le_sum_operators {operators : List Nat}
    (hoperators : ∀ arity ∈ operators, arity = 1 ∨ arity = 2) :
    operators.length ≤ operators.sum :=
  List.length_le_sum_of_one_le _ fun arity harity => by
    have := hoperators arity harity
    omega

/-- Operators without operands between them need one value more than they take together. -/
theorem needed_operators {operators : List Nat}
    (hoperators : ∀ arity ∈ operators, arity = 1 ∨ arity = 2) :
    needed operators =
      operators.sum - operators.length + (!operators.isEmpty).toNat := by
  induction operators with
  | nil => rfl
  | cons arity rest ih =>
    obtain ⟨harity, hrest⟩ := List.forall_mem_cons.mp hoperators
    have hsum := length_le_sum_operators hrest
    have hneeded := ih hrest
    simp only [needed, List.isEmpty_cons, Bool.not_false, Bool.toNat_true, List.length_cons,
      List.sum_cons]
    cases rest with
    | nil =>
      simp only [needed, List.length_nil, List.sum_nil]
      omega
    | cons next later =>
      simp only [List.isEmpty_cons, Bool.not_false, Bool.toNat_true] at hneeded
      omega

/-- All operands of operators without operands between them come before. -/
theorem delay_operators (before : Nat) {operators : List Nat}
    (hoperators : ∀ arity ∈ operators, arity = 1 ∨ arity = 2) :
    delay before operators = before * operators.length := by
  induction operators with
  | nil => rfl
  | cons arity rest ih =>
    obtain ⟨harity, hrest⟩ := List.forall_mem_cons.mp hoperators
    rw [List.length_cons, Nat.mul_succ, ← ih hrest]
    rcases harity with rfl | rfl <;> exact Nat.add_comm _ _

end Stack

/-- A term that a run reads if it finds enough operands: a value, an operand or an operator with
an operation. -/
inductive Term.Known : Term α → Prop
  | value (x : α) (position : Nat) : Known (.value x position)
  | operand (text : String) (position : Nat) : Known (.token ⟨.operand, text, position⟩)
  | operator {operation : Operation} (sign : OperatorToken operation) : Known sign.term

/-- What is read is known. -/
theorem Stack.Reads.known {A : Arithmetic α} {stack next : Stack α} {term : Term α}
    (hreads : Reads A stack term next) : term.Known := by
  cases hreads with
  | value x position => exact .value x position
  | operand => exact .operand _ _
  | negation sign => exact .operator sign
  | binary sign => exact .operator sign

/-- A run that succeeds reads every term. -/
theorem Stack.reads_of_run {A : Arithmetic α} {stack final : Stack α} {terms : List (Term α)}
    (hrun : run A stack terms = .ok final) :
    ∀ term ∈ terms, ∃ before after, Reads A before term after := by
  induction terms generalizing stack with
  | nil => exact nofun
  | cons term rest ih =>
    rw [run_cons, bind_eq_ok_iff] at hrun
    obtain ⟨next, hstep, hrest⟩ := hrun
    exact List.forall_mem_cons.mpr ⟨⟨stack, next, reads_of_step hstep⟩, ih hrest⟩

/-- A run that succeeds reads known terms only. -/
theorem Stack.known_of_run {A : Arithmetic α} {stack final : Stack α} {terms : List (Term α)}
    (hrun : run A stack terms = .ok final) : ∀ term ∈ terms, term.Known := by
  intro term hterm
  obtain ⟨before, after, hreads⟩ := reads_of_run hrun term hterm
  exact hreads.known

namespace OperatorTree

/-- All terms of a tree are known. -/
theorem known_of_mem_postorder (tree : OperatorTree α) :
    ∀ term ∈ tree.postorder, term.Known := by
  induction tree with
  | value x position => simpa [postorder] using Term.Known.value x position
  | operand text position => simpa [postorder] using Term.Known.operand text position
  | negation sign body ih =>
    intro term hterm
    rcases List.mem_append.mp hterm with hterm | hterm
    · exact ih term hterm
    · rw [List.mem_singleton.mp hterm]
      exact .operator sign
  | binary operation sign left right ihleft ihright =>
    intro term hterm
    rcases List.mem_append.mp hterm with hterm | hterm
    · exact (List.mem_append.mp hterm).elim (ihleft term) (ihright term)
    · rw [List.mem_singleton.mp hterm]
      exact .operator sign

/-- The arities of a tree with a minus sign at its root. -/
theorem arities_negation (sign : OperatorToken .negate) (body : OperatorTree α) :
    Term.arities (negation sign body).postorder = Term.arities body.postorder ++ [1] := by
  simp [Term.arities, postorder, Operation.arity]

/-- The arities of a tree with a binary operator at its root. -/
theorem arities_binary {operation : BinaryOperation} (sign : OperatorToken (.binary operation))
    (left right : OperatorTree α) :
    Term.arities (binary operation sign left right).postorder =
      Term.arities left.postorder ++ Term.arities right.postorder ++ [2] := by
  simp [Term.arities, postorder, Operation.arity]

/-- A tree has one operand more than its operators take together. -/
theorem sum_arities_postorder (tree : OperatorTree α) :
    (Term.arities tree.postorder).sum + 1 = tree.postorder.length := by
  induction tree with
  | value | operand => rfl
  | negation sign body ih =>
    rw [arities_negation, postorder, List.sum_append, List.length_append, List.sum_singleton,
      List.length_singleton]
    omega
  | binary operation sign left right ihleft ihright =>
    rw [arities_binary, postorder, List.sum_append, List.sum_append, List.length_append,
      List.length_append, List.sum_singleton, List.length_singleton]
    omega

/-- A tree has an operand. -/
theorem count_arities_postorder_pos (tree : OperatorTree α) :
    0 < (Term.arities tree.postorder).count 0 := by
  induction tree with
  | value | operand => exact Nat.one_pos
  | negation sign body ih =>
    rw [arities_negation, List.count_append]
    omega
  | binary operation sign left right ihleft ihright =>
    rw [arities_binary, List.count_append, List.count_append]
    omega

end OperatorTree

/-- The arithmetic whose numbers are the arities of the postfix forms that they come from. It has
no faults, and every text is a literal. -/
def Arithmetic.recording : Arithmetic (List Nat) where
  zero := []
  read? _ := some [0]
  text _ := ""
  negate x := .ok (x ++ [1])
  combine _ x y := .ok (x ++ y ++ [2])

/-- The arities that a term contributes to a number. -/
def Term.recorded : Term (List Nat) → List Nat
  | .value x _ => x
  | .token item => [item.arity]

/-- Terms that are tokens contribute just their arities. -/
theorem Term.flatMap_recorded {terms : List (Term (List Nat))}
    (htokens : ∀ term ∈ terms, ∃ item, term = .token item) :
    terms.flatMap recorded = arities terms := by
  induction terms with
  | nil => rfl
  | cons term rest ih =>
    obtain ⟨⟨item, rfl⟩, hrest⟩ := List.forall_mem_cons.mp htokens
    rw [List.flatMap_cons, ih hrest]
    rfl

namespace Stack

/-- A known term that finds its operands is read, and its arity is recorded. -/
theorem exists_step_recording {stack : Stack (List Nat)} {term : Term (List Nat)}
    (hknown : term.Known) (htaken : term.arity ≤ stack.length) :
    ∃ next, step .recording stack term = .ok next ∧ next.length + term.arity = stack.length + 1 ∧
      next.reverse.flatten = stack.reverse.flatten ++ term.recorded := by
  cases hknown with
  | value x position => exact ⟨x :: stack, rfl, rfl, by simp [Term.recorded]⟩
  | operand text position => exact ⟨[0] :: stack, rfl, rfl, by simp [Term.recorded, Token.arity]⟩
  | @operator operation sign =>
    have hrecorded : Term.recorded sign.term = [(sign.term : Term (List Nat)).arity] := rfl
    rw [hrecorded]
    rw [arity_term] at htaken ⊢
    cases operation with
    | negate =>
      obtain _ | ⟨x, below⟩ := stack
      · simp [Operation.arity] at htaken
      · exact ⟨(x ++ [1]) :: below, step_negation sign x below, rfl, by simp [Operation.arity]⟩
    | binary operation =>
      obtain _ | ⟨y, _ | ⟨x, below⟩⟩ := stack
      · simp [Operation.arity] at htaken
      · simp [Operation.arity] at htaken
      · exact ⟨(x ++ y ++ [2]) :: below, step_binary sign x y below, rfl,
          by simp [Operation.arity]⟩

/-- With enough values on the stack every run over known terms succeeds, and its numbers tell the
arities of what was read. -/
theorem exists_run_recording {stack : Stack (List Nat)} {terms : List (Term (List Nat))}
    (hknown : ∀ term ∈ terms, term.Known) (hneeded : needed (Term.arities terms) ≤ stack.length) :
    ∃ final, run .recording stack terms = .ok final ∧
      final.reverse.flatten = stack.reverse.flatten ++ terms.flatMap Term.recorded := by
  induction terms generalizing stack with
  | nil => exact ⟨stack, rfl, (List.append_nil _).symm⟩
  | cons term rest ih =>
    obtain ⟨hterm, hrest⟩ := List.forall_mem_cons.mp hknown
    simp only [Term.arities, List.map_cons, needed] at hneeded
    obtain ⟨next, hstep, hnext, hrecorded⟩ := exists_step_recording hterm
      (show term.arity ≤ stack.length by omega)
    obtain ⟨final, hrun, hfinal⟩ := @ih next hrest (by simp only [Term.arities]; omega)
    refine ⟨final, by rw [run_cons, hstep, ok_bind, hrun], ?_⟩
    rw [hfinal, hrecorded, List.flatMap_cons, List.append_assoc]

/-- A postfix form of known terms that never lacks an operand and has one operand more than its
operators take together is recorded as it stands. -/
theorem evaluateTerms_recording {terms : List (Term (List Nat))}
    (hknown : ∀ term ∈ terms, term.Known) (hneeded : needed (Term.arities terms) = 0)
    (hsum : (Term.arities terms).sum + 1 = terms.length) :
    evaluateTerms .recording terms = .ok (terms.flatMap Term.recorded) := by
  obtain ⟨final, hrun, hfinal⟩ := @exists_run_recording [] terms hknown (Nat.le_of_eq hneeded)
  have hlength := (length_run hrun).2
  rw [List.length_nil] at hlength
  obtain ⟨x, rfl⟩ := List.length_eq_one_iff.mp (show final.length = 1 by omega)
  rw [evaluateTerms_eq_ok_iff_run, hrun]
  simpa using hfinal

end Stack

end Calculator
