import Calculator.Proofs.Machine.Image
import Calculator.Proofs.Number.Faults
import Calculator.Proofs.OperatorTable

/-!
# Machine integers and integers without bounds

Checked arithmetic on words never gives a wrong number: an operation that does not leave the range
has the result that integers without bounds have. Hence a run over words, in the integer kinds over
words of 32 and of 64 bits, either leaves the range or is the image of a run over all integers.
-/

namespace Calculator

namespace Word

/-- The integers without bounds. Their literals are those of words of `w` bits; division truncates
toward zero, and a remainder has the sign of the dividend. How powers are computed plays no part. -/
def unbounded (w : Nat) (power : Int → Int → Int) : Arithmetic Int where
  zero := 0
  read? text := (read? w text).map BitVec.toInt
  text := Decimal.writeInt
  negate x := .ok (-x)
  combine operation x y :=
    match operation with
    | .add => .ok (x + y)
    | .subtract => .ok (x - y)
    | .multiply => .ok (x * y)
    | .divide => if y = 0 then .error .zeroDivisor else .ok (x.tdiv y)
    | .modulo => if y = 0 then .error .zeroDivisor else .ok (x.tmod y)
    | .power => .ok (power x y)

variable {w : Nat}

/-- A checked operation that does not leave the range has the exact result. -/
theorem checked_exact {overflows : Bool} {result : BitVec w} {exact : Int}
    (hexact : overflows = false → result.toInt = exact)
    (hrange : checked overflows result ≠ .error .outOfRange) :
    .ok exact = BitVec.toInt <$> checked overflows result := by
  cases overflows with
  | true => exact absurd rfl hrange
  | false =>
    rw [← hexact rfl]
    rfl

/-- Words that differ have bits. -/
theorem width_pos_of_ne {x y : BitVec w} (hne : x ≠ y) : 0 < w := by
  by_contra hnone
  obtain rfl : w = 0 := by omega
  exact hne (Subsingleton.elim x y)

/-- A quotient of words that does not leave the range is exact. -/
theorem toInt_sdiv_of_fits {x y : BitVec w} (hzero : y ≠ 0) (hfits : x.sdivOverflow y = false) :
    (x.sdiv y).toInt = x.toInt.tdiv y.toInt := by
  have hwidth : 0 < w := width_pos_of_ne hzero
  refine BitVec.toInt_sdiv_of_ne_or_ne x y ?_
  rw [← not_and_or]
  rintro ⟨rfl, rfl⟩
  simp [BitVec.sdivOverflow_eq, hwidth, BitVec.neg_one_eq_allOnes] at hfits

/-- An operation on words other than the power leaves the range or has the outcome that it has on
integers without bounds. -/
theorem combine_unbounded (power : Int → Int → Int) {operation : BinaryOperation}
    (x y : BitVec w) (hpower : operation ≠ .power)
    (hrange : combine operation x y ≠ .error .outOfRange) :
    (unbounded w power).combine operation x.toInt y.toInt =
      BitVec.toInt <$> combine operation x y := by
  have hzero : y.toInt = 0 ↔ y = 0 := by simp [← BitVec.toInt_inj]
  cases operation with
  | add =>
    exact checked_exact (fun h => BitVec.toInt_add_of_not_saddOverflow (by simp [h])) hrange
  | subtract =>
    exact checked_exact (fun h => BitVec.toInt_sub_of_not_ssubOverflow (by simp [h])) hrange
  | multiply =>
    exact checked_exact (fun h => BitVec.toInt_mul_of_not_smulOverflow (by simp [h])) hrange
  | divide =>
    simp only [unbounded, combine, hzero] at hrange ⊢
    by_cases hy : y = 0
    · rw [if_pos hy, if_pos hy]
      rfl
    · rw [if_neg hy] at hrange
      rw [if_neg hy, if_neg hy]
      exact checked_exact (toInt_sdiv_of_fits hy) hrange
  | modulo =>
    simp only [unbounded, combine, hzero] at hrange ⊢
    by_cases hy : y = 0
    · rw [if_pos hy, if_pos hy]
      rfl
    · rw [if_neg hy] at hrange
      rw [if_neg hy, if_neg hy]
      exact checked_exact (fun _ => BitVec.toInt_srem x y) hrange
  | power => exact absurd rfl hpower

/-- Integers without bounds compute what words compute within their range. -/
theorem extends_unbounded (w : Nat) (power : Int → Int → Int) :
    (unbounded w power).Extends BitVec.toInt (arithmetic w) where
  literal?_eq text := by
    simp only [unbounded, arithmetic]
  negate_eq x hrange :=
    checked_exact (fun h => BitVec.toInt_neg_of_not_negOverflow (by simp [h])) hrange
  combine_eq _ x y := combine_unbounded power x y

/-- A step over words that finds a zero divisor has zero on top of the stack, and the dividend
below it. -/
theorem exists_dividend {stack : Stack (BitVec w)} {term : Term (BitVec w)} {position : Nat}
    (hfails : Stack.Fails (arithmetic w) stack term (.zeroDivisor position)) :
    ∃ dividend below, stack = 0 :: dividend :: below := by
  generalize hfailure : Failure.zeroDivisor position = failure at hfails
  cases hfails with
  | @negation sign x fault below hfault =>
    cases fault with
    | zeroDivisor => exact absurd hfault (checked_ne_zeroDivisor _ _)
    | outOfRange => cases hfailure
  | @binary operation sign x y fault below hfault =>
    cases fault with
    | zeroDivisor => exact ⟨x, below, by rw [(divides_of_zeroDivisor hfault).2]⟩
    | outOfRange => cases hfailure
  | _ => cases hfailure

end Word

open Stack Word

/-- On a postfix form without powers, a run over words that has a value has the exact value, and a
run that fails for another reason than a number out of range fails as the run over all integers
does: at the same term, or behind the last one with the same stack. A zero divisor is exactly
zero. -/
theorem evaluateTerms_unbounded {w : Nat} (power : Int → Int → Int)
    {terms : List (Term (BitVec w))} (hpower : ∀ term ∈ terms, term.isPower = false) :
    let exact := Term.map BitVec.toInt
    (∀ x, evaluateTerms (arithmetic w) terms = .ok x →
      evaluateTerms (unbounded w power) (terms.map exact) = .ok x.toInt) ∧
    ∀ failure, evaluateTerms (arithmetic w) terms = .error failure →
      failure.isOutOfRange = false →
      evaluateTerms (unbounded w power) (terms.map exact) = .error failure ∧
      ((∃ read term rest, terms = read ++ term :: rest ∧ StopsAt (arithmetic w) read term failure ∧
          StopsAt (unbounded w power) (read.map exact) (exact term) failure ∧
          ∀ position, failure = .zeroDivisor position → ∃ dividend below,
            run (unbounded w power) [] (read.map exact) = .ok (0 :: dividend :: below)) ∨
        ∃ stack, run (arithmetic w) [] terms = .ok stack ∧
          run (unbounded w power) [] (terms.map exact) = .ok (stack.map BitVec.toInt)) := by
  intro exact
  have hextends := extends_unbounded w power
  refine ⟨fun x hvalue => ?_, fun failure hfailure hrange => ?_⟩
  · rw [evaluateTerms_eq_ok_iff_run] at hvalue ⊢
    exact run_map hextends hpower hvalue
  · rcases evaluateTerms_eq_error_iff.mp hfailure with
      ⟨read, term, rest, rfl, hstop⟩ | ⟨stack, hrun, hresult⟩
    · obtain ⟨hread, hterm, -⟩ := List.forall_mem_append.mp hpower |>.imp_right
        List.forall_mem_cons.mp
      have hsame := hstop.map hextends hread hterm hrange
      refine ⟨?_, .inl ⟨read, term, rest, rfl, hstop, hsame, ?_⟩⟩
      · rw [List.map_append, List.map_cons]
        exact hsame.evaluateTerms_eq _
      · rintro position rfl
        obtain ⟨reached, hreached, hstep⟩ := hstop
        obtain ⟨dividend, below, rfl⟩ := exists_dividend (fails_of_step hstep)
        refine ⟨dividend.toInt, below.map BitVec.toInt, ?_⟩
        simpa using run_map hextends hread hreached
    · have himage := run_map hextends hpower hrun
      refine ⟨?_, .inr ⟨stack, hrun, himage⟩⟩
      refine evaluateTerms_eq_error_iff.mpr (.inr ⟨stack.map BitVec.toInt, himage, ?_⟩)
      rw [result_map, hresult]
      rfl

/-- The postfix form of `-(x + 1) % -2` with the smallest integer of 32 bits for `x`. -/
def minimumFollowedByModulo : List (Term (BitVec 32)) :=
  [.value (BitVec.ofInt 32 (minimum 32)) 2, .token ⟨.operand, "1", 6⟩,
    .token ⟨.operator BinaryOperation.add.operator, "+", 4⟩,
    .token ⟨.operator Operator.negation, "-", 0⟩, .token ⟨.operand, "-2", 11⟩,
    .token ⟨.operator BinaryOperation.modulo.operator, "%", 9⟩]

/-- The negation stays just within the range, and the remainder 1 is exact. -/
theorem evaluateTerms_unbounded_minimum :
    (∀ term ∈ minimumFollowedByModulo, term.isPower = false) ∧
      evaluateTerms (arithmetic 32) minimumFollowedByModulo = .ok 1#32 ∧
      evaluateTerms (unbounded 32 fun _ _ => 0)
        (minimumFollowedByModulo.map (Term.map BitVec.toInt)) = .ok 1 := by
  have hpower : ∀ term ∈ minimumFollowedByModulo, term.isPower = false := by decide
  have hvalue : evaluateTerms (arithmetic 32) minimumFollowedByModulo = .ok 1#32 := by
    decide +kernel
  exact ⟨hpower, hvalue, (evaluateTerms_unbounded (fun _ _ => 0) hpower).1 _ hvalue⟩

end Calculator
