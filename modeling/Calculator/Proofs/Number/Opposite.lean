import Calculator.Proofs.Number.Spelling

/-!
# Opposite literals

A minus sign in front of an unsigned literal stands for the opposite number, so that it makes no
difference whether the sign is read with the number or negates it later. The smallest integer of a
kind is the one exception: its opposite is out of range and cannot be read by itself.
-/

namespace Calculator

/-- What is read of an unsigned text, and of the text with a minus sign in front: no numbers, a
number and its opposite, or only a number that has no opposite. -/
inductive Arithmetic.ReadsOpposite {α : Type} (A : Arithmetic α) (isMinimum : α → Prop) :
    Option α → Option α → Prop
  | none : A.ReadsOpposite isMinimum none none
  | some {x y : α} (hminimum : ¬isMinimum y) (hnegate : A.negate x = .ok y) :
      A.ReadsOpposite isMinimum (some x) (some y)
  | minimum {y : α} (hminimum : isMinimum y) : A.ReadsOpposite isMinimum none (some y)

/-- A second attempt at reading does not matter if every number has an opposite. -/
theorem Arithmetic.ReadsOpposite.orElse {α : Type} {A : Arithmetic α} {first second : Option α}
    {otherFirst otherSecond : Option α} (hfirst : A.ReadsOpposite (fun _ => False) first otherFirst)
    (hsecond : A.ReadsOpposite (fun _ => False) second otherSecond) :
    A.ReadsOpposite (fun _ => False) (first <|> second) (otherFirst <|> otherSecond) := by
  cases hfirst with
  | none => exact hsecond
  | some hminimum hnegate => exact .some hminimum hnegate
  | minimum hminimum => exact hminimum.elim

/-- Whether a number is the smallest integer of its kind. -/
def NumberKind.IsMinimum : (kind : NumberKind) → kind.Value → Prop
  | .int32, x => BitVec.toInt x = Word.minimum 32
  | .int64, x => BitVec.toInt x = Word.minimum 64
  | .float32, _ | .float64, _ => False

namespace Text

/-- A character without the property in front of a text stays in front. -/
theorem dropTrailing_cons {p : Char → Bool} {c : Char} (hc : p c = false) (text : List Char) :
    dropTrailing p (c :: text) = c :: dropTrailing p text := by
  simp [dropTrailing, List.dropWhile_append, hc]

/-- A text without blanks is its own trimmed form. -/
theorem trim_eq_self {text : List Char} (hplain : ∀ c ∈ text, isBlank c = false) :
    trim text = text := by
  have hbegin := @dropWhile_span _ isBlank [] text (List.forall_mem_nil _) fun c hc =>
    hplain c (List.mem_of_mem_head? hc)
  rw [trim, ← List.nil_append text, hbegin]
  exact dropTrailing_eq_self fun c hc => hplain c (List.mem_of_mem_getLast? hc)

end Text

section PlainNotation

variable {text : List Char}

/-- A minus sign in front of a text without blanks stays in front. -/
theorem plainNotation_minus (hplain : ∀ c ∈ text, Text.isBlank c = false) :
    plainNotation ('-' :: text) = '-' :: plainNotation text := by
  have hminus : ∀ c ∈ '-' :: text, Text.isBlank c = false :=
    List.forall_mem_cons.mpr ⟨by decide, hplain⟩
  have hkept := Text.dropTrailing_cons (p := (· == 'f')) (c := '-') rfl text
  rw [plainNotation, plainNotation, Text.trim_eq_self hminus, Text.trim_eq_self hplain, hkept]
  rfl

/-- Plain notation begins with a sign only if the text does. -/
theorem head_plainNotation (hplain : ∀ c ∈ text, Text.isBlank c = false)
    (hhead : ∀ c ∈ text.head?, isControl c = false) :
    ∀ c ∈ (plainNotation text).head?, isControl c = false := by
  obtain ⟨dropped, htext, -, -⟩ := Text.exists_dropTrailing_append (· == 'f') text
  rw [plainNotation, Text.trim_eq_self hplain]
  cases hkept : Text.dropTrailing (· == 'f') text with
  | nil =>
    intro c hc
    cases hc
  | cons first rest =>
    rw [hkept] at htext
    have hfirst : isControl first = false := hhead first (by rw [htext]; rfl)
    simp only [List.map_cons, List.head?_cons, Option.mem_def, Option.some.injEq, forall_eq']
    split
    · rfl
    · exact hfirst

end PlainNotation

namespace Decimal

variable {text : List Char}

/-- A text that begins with a plain character has no sign. -/
theorem takeSign_eq_self (hhead : ∀ c ∈ text.head?, isControl c = false) :
    takeSign text = (false, text) := by
  fun_cases takeSign text with
  | case1 => cases hhead '-' rfl
  | case2 => cases hhead '+' rfl
  | case3 => rfl

/-- An unsigned integer is what its digits stand for. -/
theorem readInt?_unsigned (hhead : ∀ c ∈ text.head?, isControl c = false) :
    readInt? text = (readDigits? text).map fun n : Nat => (n : Int) := by
  simp only [readInt?, takeSign_eq_self hhead]
  cases readDigits? text <;> rfl

/-- A minus sign in front of digits stands for the opposite integer. -/
theorem readInt?_minus (text : List Char) :
    readInt? ('-' :: text) = (readDigits? text).map fun n : Nat => -(n : Int) := by
  simp only [readInt?, takeSign]
  cases readDigits? text <;> rfl

/-- The numeral with the given sign. -/
def Numeral.withSign (negative : Bool) : Numeral → Numeral
  | nan => nan
  | infinite _ => infinite negative
  | finite _ significand exponent => finite negative significand exponent

/-- The sign of a number has no influence on what is read behind it. -/
theorem readMagnitude?_cases (text : List Char) :
    (∀ negative, readMagnitude? negative text = none) ∨
      ∃ numeral : Numeral, ∀ negative,
        readMagnitude? negative text = some (numeral.withSign negative) := by
  unfold readMagnitude?
  simp only
  split
  · exact .inr ⟨.nan, fun _ => rfl⟩
  · split
    · exact .inr ⟨.infinite false, fun _ => rfl⟩
    · split
      · exact .inr ⟨.finite false _ _, fun _ => rfl⟩
      · exact .inl fun _ => rfl

end Decimal

namespace Word

open Decimal

variable {w : Nat} {text : List Char}

/-- An integer in the range of a word is kept by the word. -/
theorem toInt_ofInt (hw : 0 < w) {n : Int} (hn : minimum w ≤ n ∧ n ≤ maximum w) :
    (BitVec.ofInt w n).toInt = n := by
  obtain ⟨hlow, hhigh⟩ := hn
  simp only [minimum, maximum, Nat.pow_eq] at hlow hhigh
  push_cast at hlow hhigh
  exact BitVec.toInt_ofInt_eq_self hw hlow (by omega)

/-- A word other than the smallest one has an opposite. -/
theorem negate_eq_ok {x : BitVec w} (hx : x.toInt ≠ minimum w) :
    (arithmetic w).negate x = .ok (-x) := by
  have hfits : x.negOverflow = false := by
    rw [BitVec.negOverflow]
    simpa [minimum] using hx
  simp [arithmetic, hfits, checked]

/-- An unsigned integer and the integer behind a minus sign are opposite words. -/
theorem readsOpposite_read? (hw : 0 < w) (hhead : ∀ c ∈ text.head?, isControl c = false) :
    (arithmetic w).ReadsOpposite (fun x => x.toInt = minimum w)
      (read? w text) (read? w ('-' :: text)) := by
  rw [read?, read?, readInt?_unsigned hhead, readInt?_minus]
  cases readDigits? text with
  | none => exact .none
  | some n =>
    have hbounds : minimum w = -(maximum w) - 1 := by
      simp only [minimum, maximum]
      omega
    simp only [Option.map_some, Option.bind_some]
    by_cases hfits : (n : Int) ≤ maximum w
    · have hx := toInt_ofInt hw (n := n) ⟨by omega, hfits⟩
      have hy := toInt_ofInt hw (n := -n) ⟨by omega, by omega⟩
      have hnegate : (arithmetic w).negate (BitVec.ofInt w n) = .ok (BitVec.ofInt w (-n)) := by
        rw [negate_eq_ok (by omega), BitVec.ofInt_neg]
      have hminimum : (BitVec.ofInt w (-n)).toInt ≠ minimum w := by omega
      rw [if_pos ⟨by omega, hfits⟩, if_pos ⟨by omega, by omega⟩]
      exact .some hminimum hnegate
    · rw [if_neg (by omega)]
      split
      · rename_i hrange
        have hy := toInt_ofInt hw hrange
        exact .minimum (by omega)
      · exact .none

end Word

namespace FloatingPoint

open Decimal

variable {α : Type} [FloatingPoint α] {text : List Char}

/-- Numerals with opposite signs stand for opposite numbers, if what is no number has no sign. -/
theorem ofNumeral_withSign_true (hnan : negate (encode .nan : α) = encode .nan)
    (numeral : Numeral) :
    (ofNumeral (numeral.withSign true) : α) = negate (ofNumeral (numeral.withSign false)) := by
  cases numeral with
  | nan => exact hnan.symm
  | infinite | finite => rfl

/-- An unsigned real number and the one behind a minus sign are opposite. -/
theorem readsOpposite_read? (hnan : negate (encode .nan : α) = encode .nan)
    (hhead : ∀ c ∈ text.head?, isControl c = false) :
    (arithmetic α).ReadsOpposite (fun _ => False)
      ((arithmetic α).read? text) ((arithmetic α).read? ('-' :: text)) := by
  have hplain : Numeral.read? text = readMagnitude? false text := by
    rw [Numeral.read?, takeSign_eq_self hhead]
  have hminus : Numeral.read? ('-' :: text) = readMagnitude? true text := rfl
  simp only [arithmetic, read?, hplain, hminus]
  rcases readMagnitude?_cases text with hnone | ⟨numeral, hnumeral⟩
  · rw [hnone, hnone]
    exact .none
  · rw [hnumeral, hnumeral]
    exact .some not_false (congrArg Except.ok (ofNumeral_withSign_true hnan numeral).symm)

end FloatingPoint

namespace NumberKind

variable {kind : NumberKind} {text : List Char}

/-- In every kind an unsigned literal and the one behind a minus sign are opposite. -/
theorem readsOpposite_literal? (hplain : ∀ c ∈ text, Text.isBlank c = false)
    (hhead : ∀ c ∈ text.head?, isControl c = false) :
    kind.arithmetic.ReadsOpposite kind.IsMinimum
      (kind.arithmetic.literal? (String.ofList text))
      (kind.arithmetic.literal? (String.ofList ('-' :: text))) := by
  have hminus : ∀ c ∈ '-' :: text, Text.isBlank c = false :=
    List.forall_mem_cons.mpr ⟨by decide, hplain⟩
  have hplainHead := head_plainNotation hplain hhead
  have hword {w : Nat} (hw : 0 < w) :
      (Word.arithmetic w).ReadsOpposite (fun x => x.toInt = Word.minimum w)
        ((Word.arithmetic w).literal? (String.ofList text))
        ((Word.arithmetic w).literal? (String.ofList ('-' :: text))) := by
    rw [Word.literal?_eq_read?, Word.literal?_eq_read?, String.toList_ofList, String.toList_ofList,
      plainNotation_minus hplain]
    exact Word.readsOpposite_read? hw hplainHead
  have hreal {α : Type} [FloatingPoint α]
      (hnan : FloatingPoint.negate (FloatingPoint.encode .nan : α) = FloatingPoint.encode .nan) :
      (FloatingPoint.arithmetic α).ReadsOpposite (fun _ => False)
        ((FloatingPoint.arithmetic α).literal? (String.ofList text))
        ((FloatingPoint.arithmetic α).literal? (String.ofList ('-' :: text))) := by
    rw [FloatingPoint.literal?_eq, FloatingPoint.literal?_eq, String.toList_ofList,
      String.toList_ofList, plainNotation_minus hplain, Text.trim_eq_self hplain,
      Text.trim_eq_self hminus]
    exact (FloatingPoint.readsOpposite_read? hnan hplainHead).orElse
      (FloatingPoint.readsOpposite_read? hnan hhead)
  cases kind with
  | int32 => exact hword (by decide)
  | int64 => exact hword (by decide)
  | float32 => exact @hreal Float32 _ rfl
  | float64 => exact @hreal Float _ rfl

end NumberKind

end Calculator
