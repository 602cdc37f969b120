import Calculator.Proofs.Machine.Covering
import Calculator.Proofs.Number.Notation
import Calculator.Proofs.Number.Unbounded

/-!
# Wider kinds

What one kind of numbers computes, a wider kind computes as well. Longer words have the integers of
the shorter ones and keep every result that these have, powers excepted. Floating-point numbers read
every integer and never fault, so that they have some number wherever words have one.
-/

namespace Calculator

namespace Word

variable {w v : Nat}

/-- Whether an integer is in the range of words of `w` bits. -/
def InRange (w : Nat) (n : Int) : Prop :=
  minimum w ≤ n ∧ n ≤ maximum w

/-- An integer in the range of words is in the range of longer words. -/
theorem InRange.of_le (hle : w ≤ v) {n : Int} (hn : InRange w n) : InRange v n := by
  have hpower : Nat.pow 2 (w - 1) ≤ Nat.pow 2 (v - 1) :=
    Nat.pow_le_pow_right (by decide) (Nat.sub_le_sub_right hle 1)
  obtain ⟨hlow, hhigh⟩ := hn
  simp only [minimum, maximum] at hlow hhigh
  constructor <;> simp only [minimum, maximum] <;> omega

section Flags

variable {x y : BitVec w}

/-- The flags of overflow are set for integers that are out of range. -/
theorem flag_eq_false_iff {n bound : Int} (hbound : bound = (Nat.pow 2 (w - 1) : Nat)) :
    (decide (bound ≤ n) || decide (n < -bound)) = false ↔ InRange w n := by
  simp only [Bool.or_eq_false_iff, decide_eq_false_iff_not, InRange, minimum, maximum]
  omega

/-- A sum does not overflow exactly if it is in range. -/
theorem saddOverflow_eq_false_iff : x.saddOverflow y = false ↔ InRange w (x.toInt + y.toInt) :=
  flag_eq_false_iff (Int.natCast_pow 2 (w - 1)).symm

/-- A difference does not overflow exactly if it is in range. -/
theorem ssubOverflow_eq_false_iff : x.ssubOverflow y = false ↔ InRange w (x.toInt - y.toInt) :=
  flag_eq_false_iff (Int.natCast_pow 2 (w - 1)).symm

/-- A product does not overflow exactly if it is in range. -/
theorem smulOverflow_eq_false_iff : x.smulOverflow y = false ↔ InRange w (x.toInt * y.toInt) :=
  flag_eq_false_iff (Int.natCast_pow 2 (w - 1)).symm

/-- A quotient does not overflow exactly if it is in range. -/
theorem sdivOverflow_eq_false_iff : x.sdivOverflow y = false ↔ InRange w (x.toInt / y.toInt) :=
  flag_eq_false_iff (Int.natCast_pow 2 (w - 1)).symm

/-- A negation does not overflow exactly if it is in range. -/
theorem negOverflow_eq_false_iff : x.negOverflow = false ↔ InRange w (-x.toInt) := by
  have hbound : (Nat.pow 2 (w - 1) : Nat) = (2 : Int).pow (w - 1) := Int.natCast_pow 2 (w - 1)
  have hflag : x.negOverflow = (x.toInt == -(Nat.pow 2 (w - 1) : Nat)) := by
    rw [hbound]
    rfl
  obtain ⟨hlow, hhigh⟩ := range_toInt x
  simp only [hflag, beq_eq_false_iff_ne, InRange, minimum, maximum] at hlow hhigh ⊢
  omega

end Flags

/-- A checked operation has a value exactly if it does not leave the range. -/
theorem checked_eq_ok_iff {α : Type} {overflows : Bool} {result x : α} :
    checked overflows result = .ok x ↔ overflows = false ∧ result = x := by
  cases overflows <;> simp [checked]

/-- A checked operation has a value if one that overflows at least as often has one. -/
theorem exists_checked {overflows overflows' : Bool} {result z : BitVec w} {result' : BitVec v}
    (hfits : overflows = false → overflows' = false) (hz : checked overflows result = .ok z) :
    ∃ z', checked overflows' result' = .ok z' :=
  ⟨result', checked_eq_ok_iff.mpr ⟨hfits (checked_eq_ok_iff.mp hz).1, rfl⟩⟩

/-- An operation other than the power has a result in longer words if it has one. -/
theorem exists_combine_of_le (hle : w ≤ v) {operation : BinaryOperation} {x y z : BitVec w}
    {x' y' : BitVec v} (hx : x'.toInt = x.toInt) (hy : y'.toInt = y.toInt)
    (hpower : operation ≠ .power) (hz : (arithmetic w).combine operation x y = .ok z) :
    ∃ z', (arithmetic v).combine operation x' y' = .ok z' := by
  have hquotient : x.sdivOverflow y = false → x'.sdivOverflow y' = false := by
    rw [sdivOverflow_eq_false_iff, sdivOverflow_eq_false_iff, hx, hy]
    exact InRange.of_le hle
  have hzero : y' = 0 → y = 0 := by
    rintro rfl
    rw [← BitVec.toInt_inj, ← hy]
    exact BitVec.toInt_zero.trans BitVec.toInt_zero.symm
  cases operation with
  | add =>
    refine exists_checked ?_ hz
    rw [saddOverflow_eq_false_iff, saddOverflow_eq_false_iff, hx, hy]
    exact InRange.of_le hle
  | subtract =>
    refine exists_checked ?_ hz
    rw [ssubOverflow_eq_false_iff, ssubOverflow_eq_false_iff, hx, hy]
    exact InRange.of_le hle
  | multiply =>
    refine exists_checked ?_ hz
    rw [smulOverflow_eq_false_iff, smulOverflow_eq_false_iff, hx, hy]
    exact InRange.of_le hle
  | divide | modulo =>
    simp only [arithmetic, combine] at hz ⊢
    split at hz
    · cases hz
    · rename_i hne
      rw [if_neg (mt hzero hne)]
      exact exists_checked hquotient hz
  | power => exact absurd rfl hpower

/-- A negation has a result in longer words if it has one. -/
theorem exists_negate_of_le (hle : w ≤ v) {x y : BitVec w} {x' : BitVec v}
    (hx : x'.toInt = x.toInt) (hy : (arithmetic w).negate x = .ok y) :
    ∃ y', (arithmetic v).negate x' = .ok y' := by
  refine exists_checked ?_ hy
  rw [negOverflow_eq_false_iff, negOverflow_eq_false_iff, hx]
  exact InRange.of_le hle

/-- Longer words have the integers of shorter ones, and on them the same results but of powers. -/
theorem covers_of_le (hw : 0 < w) (hle : w ≤ v) :
    (arithmetic v).Covers (fun x x' => x'.toInt = x.toInt) (arithmetic w) (· ≠ .power) where
  literal? {text x} hliteral := by
    rw [literal?_eq_read?, read?_eq_some_iff hw] at hliteral
    have hfits : (x.signExtend v).toInt = x.toInt := BitVec.toInt_signExtend_of_le hle
    refine ⟨x.signExtend v, ?_, hfits⟩
    rw [literal?_eq_read?, read?_eq_some_iff (by omega), hfits]
    exact hliteral
  negate {x x' y} hx hy := by
    obtain ⟨y', hy'⟩ := exists_negate_of_le hle hx hy
    refine ⟨y', hy', ?_⟩
    have hexact := (extends_unbounded w fun _ _ => 0).negate_eq x (by rw [hy]; nofun)
    have hexact' := (extends_unbounded v fun _ _ => 0).negate_eq x' (by rw [hy']; nofun)
    rw [hx, hy'] at hexact'
    rw [hy] at hexact
    exact Except.ok.inj (hexact'.symm.trans hexact)
  combine {operation x x' y y' z} hpower hx hy hz := by
    obtain ⟨z', hz'⟩ := exists_combine_of_le hle hx hy hpower hz
    refine ⟨z', hz', ?_⟩
    have hexact :=
      (extends_unbounded w fun _ _ => 0).combine_eq operation x y hpower (by rw [hz]; nofun)
    have hexact' :=
      (extends_unbounded v fun _ _ => 0).combine_eq operation x' y' hpower (by rw [hz']; nofun)
    rw [hx, hy, hz'] at hexact'
    rw [hz] at hexact
    exact Except.ok.inj (hexact'.symm.trans hexact)

end Word

namespace FloatingPoint

/-- Floating-point numbers read what words read, and they never fault. -/
theorem covers_word (α : Type) [FloatingPoint α] {w : Nat} (hw : 0 < w) :
    (arithmetic α).Covers (fun _ _ => True) (Word.arithmetic w) (fun _ => True) where
  literal? {text x} hliteral := by
    rw [Word.literal?_eq_read?, Word.read?_eq_some_iff hw] at hliteral
    obtain ⟨numeral, hnumeral⟩ := hliteral.exists_writes
    have hread : (arithmetic α).read? (plainNotation text.toList) = some (ofNumeral numeral) :=
      read?_eq_some_iff.mpr ⟨numeral, hnumeral, rfl⟩
    exact ⟨ofNumeral numeral, by rw [literal?_eq, hread]; rfl, trivial⟩
  negate _ _ := ⟨_, rfl, trivial⟩
  combine _ _ _ _ := ⟨_, rfl, trivial⟩

end FloatingPoint

/-- A kind of floating-point numbers has a number wherever a kind of integers has one. -/
theorem NumberKind.covers_integer {narrow wide : NumberKind} (hnarrow : narrow.isInteger = true)
    (hwide : wide.isInteger = false) :
    wide.arithmetic.Covers (fun _ _ => True) narrow.arithmetic (fun _ => True) := by
  have hreal (α : Type) [FloatingPoint α] :
      (FloatingPoint.arithmetic α).Covers (fun _ _ => True) narrow.arithmetic (fun _ => True) := by
    cases narrow with
    | int32 => exact FloatingPoint.covers_word α (w := 32) (by decide)
    | int64 => exact FloatingPoint.covers_word α (w := 64) (by decide)
    | float32 | float64 => cases hnarrow
  cases wide with
  | int32 | int64 => cases hwide
  | float32 => exact hreal Float32
  | float64 => exact hreal Float

end Calculator
