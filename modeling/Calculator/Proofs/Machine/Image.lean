import Calculator.Proofs.Machine.Failing

/-!
# Images of runs

One arithmetic may compute what another one computes, with other numbers for the same values, as
long as the other one does not leave its range. Then a run in the one arithmetic is the image of
the run in the other: the same values, step by step, and the same failures at the same terms.
Powers are left out.
-/

namespace Calculator

variable {α β : Type}

namespace Term

/-- A term with the value of its variable, if it has one, replaced. -/
def map (f : α → β) : Term α → Term β
  | value x position => value (f x) position
  | token item => token item

/-- Whether a term is an operator with the symbol of powers. -/
def isPower : Term α → Bool
  | value _ _ => false
  | token item =>
    match item.kind with
    | .operator op => op.symbol == '^'
    | _ => false

end Term

/-- Whether an evaluation failed because a number left its range. -/
def Failure.isOutOfRange : Failure → Bool
  | outOfRange .. => true
  | _ => false

/-- An operator of an operation other than the power has another symbol. -/
theorem OperatorToken.ne_power {operation : BinaryOperation}
    (sign : OperatorToken (.binary operation)) (hpower : (sign.term : Term α).isPower = false) :
    operation ≠ .power := by
  rintro rfl
  have hsymbol : sign.op.symbol = '^' := by
    have hmeans := sign.means
    unfold Operation.ofSymbol? at hmeans
    split at hmeans <;> cases hmeans
    assumption
  simp [Term.isPower, OperatorToken.term, hsymbol] at hpower

/-- The numbers of `B` stand for those of `A` by `f`: both read the same literals, and unless `A`
leaves its range, an operation other than the power has the same outcome in both. -/
structure Arithmetic.Extends (B : Arithmetic β) (f : α → β) (A : Arithmetic α) : Prop where
  literal?_eq : ∀ text, B.literal? text = (A.literal? text).map f
  negate_eq : ∀ x, A.negate x ≠ .error .outOfRange → B.negate (f x) = f <$> A.negate x
  combine_eq : ∀ operation x y, operation ≠ .power → A.combine operation x y ≠ .error .outOfRange →
    B.combine operation (f x) (f y) = f <$> A.combine operation x y

/-- An operation with a result has the image of it as its result. -/
theorem OperatorToken.settle_map {operation : Operation} {sign : OperatorToken operation}
    {outcome : Except Fault α} {image : Except Fault β} {f : α → β} {x : α}
    (himage : outcome ≠ .error .outOfRange → image = f <$> outcome)
    (hx : sign.settle outcome = .ok x) : sign.settle image = .ok (f x) := by
  cases outcome with
  | error fault => cases hx
  | ok y =>
    cases hx
    rw [himage nofun]
    rfl

/-- A fault that does not leave the range is no such failure. -/
theorem Fault.ne_outOfRange {fault : Fault} {symbol : Char} {position : Nat}
    (hrange : (fault.at symbol position).isOutOfRange = false) : fault ≠ .outOfRange := by
  rintro rfl
  cases hrange

namespace Stack

variable {A : Arithmetic α} {B : Arithmetic β} {f : α → β}

/-- What a step reads, its image reads. -/
theorem Reads.map (hextends : B.Extends f A) {stack next : Stack α} {term : Term α}
    (hpower : term.isPower = false) (hreads : Reads A stack term next) :
    Reads B (stack.map f) (term.map f) (next.map f) := by
  cases hreads with
  | value x position => exact .value (f x) position _
  | @operand text position x _ hx =>
    refine .operand _ ?_
    rw [OperatorTree.operandValue, hextends.literal?_eq]
    rw [OperatorTree.operandValue] at hx
    split at hx <;> cases hx
    rename_i hliteral
    rw [hliteral]
    rfl
  | negation sign below hy =>
    exact .negation sign _ (OperatorToken.settle_map (hextends.negate_eq _) hy)
  | binary sign below hz =>
    exact .binary sign _
      (OperatorToken.settle_map (hextends.combine_eq _ _ _ (sign.ne_power hpower)) hz)

/-- Where a step fails, but not because a number left its range, its image fails in the same
way. -/
theorem Fails.map (hextends : B.Extends f A) {stack : Stack α} {term : Term α} {failure : Failure}
    (hpower : term.isPower = false) (hfails : Fails A stack term failure)
    (hrange : failure.isOutOfRange = false) : Fails B (stack.map f) (term.map f) failure := by
  cases hfails with
  | operand position _ hnone =>
    exact .operand position _ (by rw [hextends.literal?_eq, hnone]; rfl)
  | opening text position => exact .opening text position _
  | closing text position => exact .closing text position _
  | meaningless text position _ hnone => exact .meaningless text position _ hnone
  | tooFew sign hfew =>
    rw [← List.length_map f] at hfew ⊢
    exact .tooFew sign hfew
  | negation sign below hfault =>
    have hfits := hextends.negate_eq _ (by
      rw [hfault]
      exact fun heq => Fault.ne_outOfRange hrange (Except.error.inj heq))
    rw [hfault] at hfits
    exact .negation sign _ hfits
  | binary sign below hfault =>
    have hfits := hextends.combine_eq _ _ _ (sign.ne_power hpower) (by
      rw [hfault]
      exact fun heq => Fault.ne_outOfRange hrange (Except.error.inj heq))
    rw [hfault] at hfits
    exact .binary sign _ hfits

/-- A run that reads all its terms has an image that does. -/
theorem run_map (hextends : B.Extends f A) {terms : List (Term α)}
    (hpower : ∀ term ∈ terms, term.isPower = false) {stack final : Stack α}
    (hrun : run A stack terms = .ok final) :
    run B (stack.map f) (terms.map (Term.map f)) = .ok (final.map f) := by
  induction terms generalizing stack with
  | nil =>
    cases hrun
    rfl
  | cons term rest ih =>
    obtain ⟨hterm, hrest⟩ := List.forall_mem_cons.mp hpower
    rw [run_cons, bind_eq_ok_iff] at hrun
    obtain ⟨next, hstep, hlater⟩ := hrun
    have hnext := ((reads_of_step hstep).map hextends hterm).step_eq
    rw [List.map_cons, run_cons, hnext, ok_bind]
    exact ih hrest hlater

/-- A run that stops, but not because a number left its range, has an image that stops at the same
term with the same failure. -/
theorem StopsAt.map (hextends : B.Extends f A) {read : List (Term α)} {term : Term α}
    {failure : Failure} (hread : ∀ term ∈ read, term.isPower = false)
    (hterm : term.isPower = false) (hstop : StopsAt A read term failure)
    (hrange : failure.isOutOfRange = false) :
    StopsAt B (read.map (Term.map f)) (term.map f) failure := by
  obtain ⟨stack, hrun, hstep⟩ := hstop
  exact ⟨stack.map f, run_map hextends hread hrun,
    ((fails_of_step hstep).map hextends hterm hrange).step_eq⟩

/-- The image of a stack has the image of its value or the same failure. -/
theorem result_map (f : α → β) (stack : Stack α) : result (stack.map f) = f <$> stack.result := by
  rcases stack with _ | ⟨x, _ | ⟨y, below⟩⟩
  · rfl
  · rfl
  · simp [result]

end Stack

end Calculator
