import Calculator.Number.Kind

/-!
# Faults

Only operations on whole numbers fault. A zero divisor is found by a division or a remainder, a
negation only leaves the range, and powers do not fault at all, because they are kept in range.
-/

namespace Calculator

namespace Word

variable {w : Nat}

/-- A check does not find a zero divisor. -/
theorem checked_ne_zeroDivisor (overflows : Bool) (result : BitVec w) :
    checked overflows result ≠ .error .zeroDivisor := by
  cases overflows <;> nofun

/-- An operation that finds a zero divisor divides, and its right operand is zero. -/
theorem divides_of_zeroDivisor {operation : BinaryOperation} {x y : BitVec w}
    (hfault : combine operation x y = .error .zeroDivisor) :
    (operation = .divide ∨ operation = .modulo) ∧ y = 0 := by
  cases operation with
  | add | subtract | multiply => exact absurd hfault (checked_ne_zeroDivisor _ _)
  | divide | modulo =>
    refine ⟨by simp, ?_⟩
    simp only [combine] at hfault
    split at hfault
    · assumption
    · exact absurd hfault (checked_ne_zeroDivisor _ _)
  | power => cases hfault

/-- An operation that faults is no power. -/
theorem ne_power_of_fault {operation : BinaryOperation} {x y : BitVec w} {fault : Fault}
    (hfault : combine operation x y = .error fault) : operation ≠ .power := by
  rintro rfl
  cases hfault

end Word

namespace NumberKind

/-- A negation that faults leaves the range of an integer kind. -/
theorem fault_of_negate {kind : NumberKind} {x : kind.Value} {fault : Fault}
    (hfault : kind.arithmetic.negate x = .error fault) :
    kind.isInteger = true ∧ fault = .outOfRange := by
  have hword {w : Nat} {x : BitVec w} (h : (Word.arithmetic w).negate x = .error fault) :
      fault = .outOfRange := by
    cases fault with
    | zeroDivisor => exact absurd h (Word.checked_ne_zeroDivisor _ _)
    | outOfRange => rfl
  cases kind with
  | int32 | int64 => exact ⟨rfl, hword hfault⟩
  | float32 | float64 => cases hfault

/-- A binary operation that faults is one on an integer kind but the power, and it divides if it
finds a zero divisor. -/
theorem fault_of_combine {kind : NumberKind} {operation : BinaryOperation} {x y : kind.Value}
    {fault : Fault} (hfault : kind.arithmetic.combine operation x y = .error fault) :
    kind.isInteger = true ∧ operation ≠ .power ∧
      (fault = .zeroDivisor → operation = .divide ∨ operation = .modulo) := by
  have hword {w : Nat} {x y : BitVec w} (h : Word.combine operation x y = .error fault) :
      operation ≠ .power ∧ (fault = .zeroDivisor → operation = .divide ∨ operation = .modulo) :=
    ⟨Word.ne_power_of_fault h, fun hzero => (Word.divides_of_zeroDivisor (hzero ▸ h)).1⟩
  cases kind with
  | int32 | int64 => exact ⟨rfl, hword hfault⟩
  | float32 | float64 => cases hfault

end NumberKind

end Calculator
