import Calculator.Proofs.Number.Widening

/-!
# Exact outcomes on machine integers

An operation on words has the exact result if it is in range and leaves the range if it is not;
division and remainder by zero have a fault of their own. One remainder breaks this rule: that of
the smallest integer by -1 is zero, but the operation faults together with its quotient.
-/

namespace Calculator

namespace Word

variable {w : Nat}

/-- Whether the outcome of an operation is that of its exact result: the word that stands for it, or
out of range if the result is. -/
def IsExact (outcome : Except Fault (BitVec w)) (exact : Int) : Prop :=
  (outcome = .error .outOfRange ↔ ¬InRange w exact) ∧ ∀ z, outcome = .ok z ↔ z.toInt = exact

/-- Whether an operation is a remainder whose quotient is out of range. -/
def LacksQuotient (operation : BinaryOperation) (x y : BitVec w) : Prop :=
  operation = .modulo ∧ x.toInt = minimum w ∧ y.toInt = -1

/-- A check that finds just the results that are out of range has the exact outcome. -/
theorem isExact_checked {overflows : Bool} {result : BitVec w} {exact : Int}
    (hresult : overflows = false → result.toInt = exact)
    (hrange : overflows = true → ¬InRange w exact) : IsExact (checked overflows result) exact := by
  cases overflows with
  | true =>
    refine ⟨iff_of_true rfl (hrange rfl), fun z => iff_of_false (fun hok => by cases hok) ?_⟩
    rintro rfl
    exact hrange rfl (range_toInt z)
  | false =>
    obtain rfl := hresult rfl
    refine ⟨iff_of_false (fun herror => by cases herror) (not_not.mpr (range_toInt result)),
      fun z => ?_⟩
    rw [checked_eq_ok_iff, BitVec.toInt_inj, eq_comm (a := z)]
    exact and_iff_right rfl

/-- A flag that is not set just in range is set only out of range. -/
theorem not_inRange_of_flag {overflows : Bool} {exact : Int}
    (hflag : overflows = false ↔ InRange w exact) (hset : overflows = true) :
    ¬InRange w exact := fun hrange => by
  rw [hflag.mpr hrange] at hset
  cases hset

/-- The only quotient that is out of range is that of the smallest integer by -1. -/
theorem sdivOverflow_eq_true_iff {x y : BitVec w} (hy : y ≠ 0) :
    x.sdivOverflow y = true ↔ x.toInt = minimum w ∧ y.toInt = -1 := by
  have hwidth : 0 < w := width_pos_of_ne hy
  have hminimum : (BitVec.intMin w).toInt = minimum w := by
    rw [BitVec.toInt_intMin_of_pos hwidth, minimum, Nat.pow_eq, Int.natCast_pow]
    rfl
  have hminusOne : (BitVec.allOnes w).toInt = -1 := by
    rw [BitVec.toInt_allOnes, if_pos hwidth]
  simp only [BitVec.sdivOverflow_eq, hwidth, decide_true, Bool.true_and, Bool.and_eq_true,
    decide_eq_true_eq, ← hminimum, ← hminusOne, BitVec.toInt_inj]

/-- The quotient of the smallest integer by -1 is out of range. -/
theorem not_inRange_tdiv {x y : Int} (hx : x = minimum w) (hy : y = -1) :
    ¬InRange w (x.tdiv y) := by
  rw [hx, hy, Int.tdiv_neg, Int.tdiv_one, InRange, minimum, maximum]
  omega

/-- A negation has the exact outcome. -/
theorem isExact_negate (x : BitVec w) : IsExact ((arithmetic w).negate x) (-x.toInt) :=
  isExact_checked (fun h => BitVec.toInt_neg_of_not_negOverflow (by simp [h]))
    (not_inRange_of_flag negOverflow_eq_false_iff)

/-- An operation other than a remainder has no quotient to lack. -/
theorem isExact_of_ne_modulo {operation : BinaryOperation} {x y : BitVec w} {exact : Int}
    (hother : operation ≠ .modulo) (hexact : IsExact (combine operation x y) exact) :
    (LacksQuotient operation x y → combine operation x y = .error .outOfRange) ∧
      (¬LacksQuotient operation x y → IsExact (combine operation x y) exact) :=
  ⟨fun hlacks => absurd hlacks.1 hother, fun _ => hexact⟩

/-- An operation other than the power that finds no zero divisor has the exact outcome, unless it is
a remainder whose quotient is out of range. -/
theorem exists_exact (power : Int → Int → Int) {operation : BinaryOperation} (x y : BitVec w)
    (hpower : operation ≠ .power)
    (hzero : ¬((operation = .divide ∨ operation = .modulo) ∧ y = 0)) :
    ∃ exact, (unbounded w power).combine operation x.toInt y.toInt = .ok exact ∧
      (LacksQuotient operation x y → combine operation x y = .error .outOfRange) ∧
      (¬LacksQuotient operation x y → IsExact (combine operation x y) exact) := by
  have hnonzero : y.toInt = 0 ↔ y = 0 := by simp [← BitVec.toInt_inj]
  cases operation with
  | add =>
    refine ⟨_, rfl, isExact_of_ne_modulo (by decide) (isExact_checked ?_ ?_)⟩
    · exact fun h => BitVec.toInt_add_of_not_saddOverflow (by simp [h])
    · exact not_inRange_of_flag saddOverflow_eq_false_iff
  | subtract =>
    refine ⟨_, rfl, isExact_of_ne_modulo (by decide) (isExact_checked ?_ ?_)⟩
    · exact fun h => BitVec.toInt_sub_of_not_ssubOverflow (by simp [h])
    · exact not_inRange_of_flag ssubOverflow_eq_false_iff
  | multiply =>
    refine ⟨_, rfl, isExact_of_ne_modulo (by decide) (isExact_checked ?_ ?_)⟩
    · exact fun h => BitVec.toInt_mul_of_not_smulOverflow (by simp [h])
    · exact not_inRange_of_flag smulOverflow_eq_false_iff
  | divide =>
    have hy : y ≠ 0 := fun hy => hzero ⟨.inl rfl, hy⟩
    have hexact : IsExact (combine .divide x y) (x.toInt.tdiv y.toInt) := by
      rw [combine, if_neg hy]
      refine isExact_checked (toInt_sdiv_of_fits hy) fun hset => ?_
      obtain ⟨hx, hy'⟩ := (sdivOverflow_eq_true_iff hy).mp hset
      exact not_inRange_tdiv hx hy'
    refine ⟨_, ?_, isExact_of_ne_modulo (by decide) hexact⟩
    simp only [unbounded, hnonzero, if_neg hy]
  | modulo =>
    have hy : y ≠ 0 := fun hy => hzero ⟨.inr rfl, hy⟩
    simp only [unbounded, combine, hnonzero, if_neg hy]
    refine ⟨_, rfl, fun hlacks => ?_, fun hlacks => ?_⟩
    · rw [(sdivOverflow_eq_true_iff hy).mpr hlacks.2]
      rfl
    · -- The flag is that of the quotient, and the quotient is in range.
      have hfits : x.sdivOverflow y = false := by
        rw [← Bool.not_eq_true, sdivOverflow_eq_true_iff hy]
        exact fun hquotient => hlacks ⟨rfl, hquotient⟩
      rw [hfits]
      exact isExact_checked (fun _ => BitVec.toInt_srem x y) fun hset => by cases hset
  | power => exact absurd rfl hpower

/-- A zero divisor is found exactly by a division or a remainder whose right operand is zero. -/
theorem combine_eq_zeroDivisor_iff {operation : BinaryOperation} {x y : BitVec w} :
    combine operation x y = .error .zeroDivisor ↔
      (operation = .divide ∨ operation = .modulo) ∧ y = 0 := by
  refine ⟨divides_of_zeroDivisor, ?_⟩
  rintro ⟨rfl | rfl, rfl⟩ <;> rw [combine, if_pos rfl]

/-- A quotient and its remainder belong together. -/
theorem toInt_eq_quotient_mul_add {x y quotient remainder : BitVec w}
    (hquotient : combine .divide x y = .ok quotient)
    (hremainder : combine .modulo x y = .ok remainder) :
    x.toInt = quotient.toInt * y.toInt + remainder.toInt := by
  simp only [combine] at hquotient hremainder
  split at hquotient
  · cases hquotient
  · rename_i hy
    rw [if_neg hy] at hremainder
    obtain ⟨hfits, rfl⟩ := checked_eq_ok_iff.mp hquotient
    obtain ⟨-, rfl⟩ := checked_eq_ok_iff.mp hremainder
    rw [toInt_sdiv_of_fits hy hfits, BitVec.toInt_srem, Int.tdiv_mul_add_tmod]

/-- Operations on words fault exactly where they must, but for one remainder. A zero divisor is
found exactly by a division or a remainder whose right operand is zero. Where none is found, the
outcome is that of the exact result, with quotients truncated toward zero and remainders with the
sign of the dividend, unless the operation is the remainder of the smallest integer by -1: that one
is out of range as its quotient is. A quotient and its remainder belong together. The integer kinds
are words of 32 and of 64 bits. -/
theorem outcome_isExact (power : Int → Int → Int) :
    (∀ x : BitVec w, (arithmetic w).negate x ≠ .error .zeroDivisor ∧
      IsExact ((arithmetic w).negate x) (-x.toInt)) ∧
    (∀ operation, operation ≠ .power → ∀ x y : BitVec w,
      let outcome := (arithmetic w).combine operation x y
      (outcome = .error .zeroDivisor ↔ (operation = .divide ∨ operation = .modulo) ∧ y = 0) ∧
      (outcome ≠ .error .zeroDivisor →
        ∃ exact, (unbounded w power).combine operation x.toInt y.toInt = .ok exact ∧
          (LacksQuotient operation x y → outcome = .error .outOfRange) ∧
          (¬LacksQuotient operation x y → IsExact outcome exact))) ∧
    ∀ x y quotient remainder : BitVec w, (arithmetic w).combine .divide x y = .ok quotient →
      (arithmetic w).combine .modulo x y = .ok remainder →
      x.toInt = quotient.toInt * y.toInt + remainder.toInt := by
  refine ⟨fun x => ⟨checked_ne_zeroDivisor _ _, isExact_negate x⟩, ?_, ?_⟩
  · intro operation hpower x y outcome
    refine ⟨combine_eq_zeroDivisor_iff, fun hzero => ?_⟩
    exact exists_exact power x y hpower (mt combine_eq_zeroDivisor_iff.mpr hzero)
  · exact fun x y quotient remainder => toInt_eq_quotient_mul_add

/-- The remainder of the smallest integer by -1 is zero, but the operation is out of range. -/
theorem modulo_minimum :
    let x : BitVec 32 := BitVec.ofInt 32 (minimum 32)
    let y : BitVec 32 := BitVec.ofInt 32 (-1)
    NumberKind.int32.arithmetic.combine .modulo x y = .error .outOfRange ∧
      x.toInt.tmod y.toInt = 0 ∧ InRange 32 0 := by
  refine ⟨by decide, by decide, ?_⟩
  exact ⟨by decide, by decide⟩

end Word

end Calculator
