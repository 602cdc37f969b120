import Calculator.Proofs.Machine.OperatorTree

/-!
# Runs in a wider arithmetic

One arithmetic covers another if it reads every literal that the other reads and has a result
wherever the other has one, so that numbers which belong together stay together. Then a run that
has a value has one in the wider arithmetic, too, and the two values belong together.
-/

namespace Calculator

variable {α β : Type}

/-- Where `A` has a number, `B` has one that belongs to it by `R`. Of the binary operations only
the allowed ones are compared. -/
structure Arithmetic.Covers (B : Arithmetic β) (R : α → β → Prop) (A : Arithmetic α)
    (allowed : BinaryOperation → Prop) : Prop where
  literal? : ∀ {text x}, A.literal? text = some x → ∃ x', B.literal? text = some x' ∧ R x x'
  negate : ∀ {x x' y}, R x x' → A.negate x = .ok y → ∃ y', B.negate x' = .ok y' ∧ R y y'
  combine : ∀ {operation x x' y y' z}, allowed operation → R x x' → R y y' →
    A.combine operation x y = .ok z → ∃ z', B.combine operation x' y' = .ok z' ∧ R z z'

/-- Whether a token stands for no other binary operation than the allowed ones. -/
def Token.Allows (allowed : BinaryOperation → Prop) (token : Token) : Prop :=
  ∀ op operation, token.kind = .operator op →
    Operation.ofSymbol? op.symbol = some (.binary operation) → allowed operation

namespace Stack

variable {A : Arithmetic α} {B : Arithmetic β} {R : α → β → Prop}
  {allowed : BinaryOperation → Prop} (hcovers : B.Covers R A allowed)
include hcovers

/-- A token that is read is read in the wider arithmetic, too. -/
theorem Reads.covered {token : Token} {stack next : Stack α} {wider : Stack β}
    (hreads : Reads A stack (.token token) next) (htoken : token.Allows allowed)
    (hstack : List.Forall₂ R stack wider) :
    ∃ next', Reads B wider (.token token) next' ∧ List.Forall₂ R next next' := by
  generalize hterm : Term.token token = term at hreads
  cases hreads with
  | value x position => cases hterm
  | operand stack hx =>
    cases hterm
    obtain ⟨x', hliteral, hrelated⟩ := hcovers.literal? (OperatorTree.operandValue_eq_ok_iff.mp hx)
    exact ⟨x' :: wider, .operand wider (OperatorTree.operandValue_eq_ok_iff.mpr hliteral),
      .cons hrelated hstack⟩
  | negation sign below hy =>
    cases hterm
    obtain _ | ⟨hx, hbelow⟩ := hstack
    obtain ⟨y', hnegate, hrelated⟩ := hcovers.negate hx (sign.settle_eq_ok_iff.mp hy)
    exact ⟨y' :: _, .negation sign _ (sign.settle_eq_ok_iff.mpr hnegate), .cons hrelated hbelow⟩
  | binary sign below hz =>
    cases hterm
    obtain _ | ⟨hy, _ | ⟨hx, hbelow⟩⟩ := hstack
    have hallowed := htoken sign.op _ rfl sign.means
    obtain ⟨z', hcombine, hrelated⟩ :=
      hcovers.combine hallowed hx hy (sign.settle_eq_ok_iff.mp hz)
    exact ⟨z' :: _, .binary sign _ (sign.settle_eq_ok_iff.mpr hcombine), .cons hrelated hbelow⟩

/-- A run that reads all its tokens does so in the wider arithmetic, too. -/
theorem run_covered {tokens : List Token} (htokens : ∀ token ∈ tokens, token.Allows allowed)
    {stack final : Stack α} {wider : Stack β} (hstack : List.Forall₂ R stack wider)
    (hrun : run A stack (tokens.map Term.token) = .ok final) :
    ∃ final', run B wider (tokens.map Term.token) = .ok final' ∧ List.Forall₂ R final final' := by
  induction tokens generalizing stack wider with
  | nil =>
    cases hrun
    exact ⟨wider, rfl, hstack⟩
  | cons token rest ih =>
    obtain ⟨htoken, hrest⟩ := List.forall_mem_cons.mp htokens
    rw [List.map_cons, run_cons, bind_eq_ok_iff] at hrun
    obtain ⟨next, hstep, hlater⟩ := hrun
    obtain ⟨next', hreads, hnext⟩ := (reads_of_step hstep).covered hcovers htoken hstack
    obtain ⟨final', hfinal, hrelated⟩ := ih hrest hnext hlater
    refine ⟨final', ?_, hrelated⟩
    rw [List.map_cons, run_cons, hreads.step_eq, ok_bind, hfinal]

end Stack

/-- A postfix form of tokens that has a value has one in a wider arithmetic, too. -/
theorem evaluateTerms_covered {A : Arithmetic α} {B : Arithmetic β} {R : α → β → Prop}
    {allowed : BinaryOperation → Prop} (hcovers : B.Covers R A allowed) {tokens : List Token}
    (htokens : ∀ token ∈ tokens, token.Allows allowed) {x : α}
    (hvalue : evaluateTerms A (tokens.map Term.token) = .ok x) :
    ∃ y, evaluateTerms B (tokens.map Term.token) = .ok y ∧ R x y := by
  rw [Stack.evaluateTerms_eq_ok_iff_run] at hvalue
  obtain ⟨final, hrun, _ | ⟨hrelated, _ | _⟩⟩ := Stack.run_covered hcovers htokens .nil hvalue
  exact ⟨_, Stack.evaluateTerms_eq_ok_iff_run.mpr hrun, hrelated⟩

end Calculator
