import Calculator.Number.Kind
import Calculator.Proofs.Token.Located
import Calculator.Proofs.Token.Trimming
import Mathlib.Data.Option.Basic

/-!
# Characters of literals

Numbers are written with digits, signs, points and the letters of a few words. Hence a literal has
no control character but signs, in particular no parenthesis, and evaluation that reads a text as a
literal never takes it for something that has structure. Floating-point numbers alone are read a
second time as they stand, but a second reading would change nothing for words, so that all kinds
can be treated alike.
-/

namespace Calculator

/-- The control characters, one by one. -/
def controlChars : List Char :=
  ['(', ')', '-', '+', '/', '*', '%', '^']

/-- There are no other control characters. -/
theorem mem_of_isControl {c : Char} (hcontrol : isControl c = true) : c ∈ controlChars := by
  rcases isControl_eq_true_iff.mp hcontrol with rfl | rfl | ⟨op, hop⟩
  · decide
  · decide
  · obtain ⟨hmem, harity, rfl⟩ := Operator.written?_eq_some_iff.mp hop
    have hsymbols : ∀ op ∈ Operator.table, op.arity = 2 →
        op.symbol ∈ controlChars := by decide
    exact hsymbols op hmem harity

namespace Decimal

/-- Whether numbers can be written with a character. -/
def isNumeric (c : Char) : Bool :=
  c.isDigit || ['+', '-', '.'].contains c || "einfaty".toList.contains c.toLower

/-- Signs are the only control characters that numbers can be written with. -/
theorem eq_sign_of_isNumeric {c : Char} (hnumeric : isNumeric c = true)
    (hcontrol : isControl c = true) : c = '+' ∨ c = '-' := by
  have hsign : controlChars.all (fun c => !isNumeric c || c == '+' || c == '-') = true := by
    decide
  simpa [hnumeric] using List.all_eq_true.mp hsign c (mem_of_isControl hcontrol)

/-- Numbers are not written with blanks. -/
theorem isBlank_eq_false_of_isNumeric {c : Char} (hnumeric : isNumeric c = true) :
    Text.isBlank c = false := by
  by_contra hblank
  have hfar : c.val.toNat ≤ 32 ∨ 133 ≤ c.val.toNat := by
    simp only [Text.isBlank, Text.blankRanges, List.any_cons, List.any_nil, Bool.or_eq_true,
      decide_eq_true_eq, Bool.not_eq_false, Bool.false_eq_true, or_false, Char.toNat] at hblank
    omega
  -- No blank is a digit or a capital letter, so that letter case plays no part.
  have hdigit : c.isDigit = false := by
    simp only [Char.isDigit, Bool.and_eq_false_iff, decide_eq_false_iff_not, ge_iff_le,
      UInt32.le_iff_toNat_le, show '0'.val.toNat = 48 from rfl, show '9'.val.toNat = 57 from rfl]
    omega
  have hlower : c.toLower = c := by
    refine dif_neg ?_
    simp only [UInt32.le_iff_toNat_le, ge_iff_le, show 'A'.val.toNat = 65 from rfl,
      show 'Z'.val.toNat = 90 from rfl]
    omega
  rw [isNumeric, hdigit, hlower, Bool.false_or, Bool.or_eq_true] at hnumeric
  have hmarks : (['+', '-', '.'] ++ "einfaty".toList).all (!Text.isBlank ·) = true := by decide
  have hmem : c ∈ ['+', '-', '.'] ++ "einfaty".toList := by
    rw [List.mem_append]
    simpa only [List.contains_iff_mem] using hnumeric
  exact hblank (by simpa using List.all_eq_true.mp hmarks c hmem)

/-- Digits are what numbers are written with. -/
theorem isNumeric_of_isDigit {c : Char} (hdigit : c.isDigit = true) : isNumeric c = true := by
  simp [isNumeric, hdigit]

/-- A digit is not a character that is none. -/
theorem ne_of_isDigit {c d : Char} (hc : c.isDigit = true) (hd : d.isDigit = false) : c ≠ d := by
  rintro rfl
  rw [hc] at hd
  cases hd

/-- What is read as digits has digits only. -/
theorem isDigit_of_readDigits? {text : List Char} {n : Nat} (hread : readDigits? text = some n) :
    ∀ c ∈ text, c.isDigit = true := by
  unfold readDigits? at hread
  split at hread
  · rename_i hdigits
    simpa using hdigits.2
  · cases hread

/-- A sign apart, a text is what stands behind its sign. -/
theorem forall_mem_of_takeSign {P : Char → Prop} (hplus : P '+') (hminus : P '-')
    {text : List Char} (hrest : ∀ c ∈ (takeSign text).2, P c) : ∀ c ∈ text, P c := by
  unfold takeSign at hrest
  split at hrest
  · exact List.forall_mem_cons.mpr ⟨hminus, hrest⟩
  · exact List.forall_mem_cons.mpr ⟨hplus, hrest⟩
  · exact hrest

/-- What is read as an integer has signs and digits only. -/
theorem forall_mem_of_readInt? {P : Char → Prop} (hplus : P '+') (hminus : P '-')
    (hdigits : ∀ c, c.isDigit = true → P c) {text : List Char} {n : Int}
    (hread : readInt? text = some n) : ∀ c ∈ text, P c := by
  obtain ⟨magnitude, hmagnitude, -⟩ := Option.map_eq_some_iff.mp hread
  obtain ⟨digits, hsome, -⟩ := Option.bind_eq_some_iff.mp hmagnitude
  exact forall_mem_of_takeSign hplus hminus fun c hc =>
    hdigits c (isDigit_of_readDigits? hsome c hc)

/-- What is read as an integer is numeric. -/
theorem isNumeric_of_readInt? {text : List Char} {n : Int} (hread : readInt? text = some n) :
    ∀ c ∈ text, isNumeric c = true :=
  forall_mem_of_readInt? (P := (isNumeric · = true)) rfl rfl (fun _ => isNumeric_of_isDigit) hread

/-- What is read as a decimal exponent is numeric. -/
theorem isNumeric_of_readExponent? {text : List Char} {n : Int}
    (hread : readExponent? text = some n) : ∀ c ∈ text, isNumeric c = true := by
  cases text with
  | nil => exact nofun
  | cons c rest =>
    simp only [readExponent?] at hread
    split at hread
    · rename_i hletter
      refine List.forall_mem_cons.mpr ⟨?_, isNumeric_of_readInt? hread⟩
      rcases hletter with rfl | rfl <;> rfl
    · cases hread

/-- A fraction apart, a text is what stands behind it. -/
theorem forall_mem_of_takeFraction {text : List Char}
    (hfraction : ∀ c ∈ (takeFraction text).1, isNumeric c = true)
    (hrest : ∀ c ∈ (takeFraction text).2, isNumeric c = true) :
    ∀ c ∈ text, isNumeric c = true := by
  fun_cases takeFraction text with
  | case1 digits =>
    refine List.forall_mem_cons.mpr ⟨rfl, fun c hc => ?_⟩
    rw [← @List.takeWhile_append_dropWhile _ Char.isDigit digits, List.mem_append] at hc
    exact hc.elim (hfraction c) (hrest c)
  | case2 =>
    rw [takeFraction] at hrest
    · exact hrest
    · assumption

/-- The letters of a word for a number are numeric. -/
theorem isNumeric_of_map_toLower {text word : List Char} (hword : text.map Char.toLower = word)
    (hletters : word.all ("einfaty".toList.contains ·) = true) :
    ∀ c ∈ text, isNumeric c = true := by
  intro c hc
  have hlower := List.all_eq_true.mp hletters c.toLower (hword ▸ List.mem_map_of_mem hc)
  rw [isNumeric, hlower, Bool.or_true]

/-- What is read as a real number without a sign is numeric. -/
theorem isNumeric_of_readMagnitude? {negative : Bool} {text : List Char} {numeral : Numeral}
    (hread : readMagnitude? negative text = some numeral) : ∀ c ∈ text, isNumeric c = true := by
  unfold readMagnitude? at hread
  simp only at hread
  split at hread
  · rename_i hword
    exact isNumeric_of_map_toLower hword (by decide)
  · split at hread
    · rename_i hword
      rcases hword with hword | hword
      · exact isNumeric_of_map_toLower hword (by decide)
      · exact isNumeric_of_map_toLower hword (by decide)
    · split at hread
      · rename_i significand exponent hsignificand hexponent
        have hdigits := isDigit_of_readDigits? hsignificand
        intro c hc
        rw [← @List.takeWhile_append_dropWhile _ Char.isDigit text, List.mem_append] at hc
        rcases hc with hwhole | hlater
        · exact isNumeric_of_isDigit (hdigits c (List.mem_append_left _ hwhole))
        · exact forall_mem_of_takeFraction
            (fun d hd => isNumeric_of_isDigit (hdigits d (List.mem_append_right _ hd)))
            (isNumeric_of_readExponent? hexponent) c hlater
      · cases hread

/-- What is read as a real number is numeric. -/
theorem isNumeric_of_read? {text : List Char} {numeral : Numeral}
    (hread : Numeral.read? text = some numeral) : ∀ c ∈ text, isNumeric c = true := by
  have hmagnitude : readMagnitude? (takeSign text).1 (takeSign text).2 = some numeral := hread
  exact forall_mem_of_takeSign (P := (isNumeric · = true)) rfl rfl
    (isNumeric_of_readMagnitude? hmagnitude)

end Decimal

section PlainNotation

variable {text : List Char}

/-- Where there is no comma, none is replaced. -/
theorem map_comma_eq_self (hcomma : ∀ c ∈ text, c ≠ ',') :
    (text.map fun c => if c = ',' then '.' else c) = text :=
  (List.map_congr_left fun c hc => if_neg (hcomma c hc)).trans (List.map_id _)

/-- Without a suffix and commas plain notation is the trimmed text. -/
theorem plainNotation_eq_trim (hlast : ∀ c ∈ (Text.trim text).getLast?, c ≠ 'f')
    (hcomma : ∀ c ∈ Text.trim text, c ≠ ',') : plainNotation text = Text.trim text := by
  have hkept : Text.dropTrailing (· == 'f') (Text.trim text) = Text.trim text :=
    Text.dropTrailing_eq_self fun c hc => by simpa using hlast c hc
  rw [plainNotation, hkept, map_comma_eq_self hcomma]

/-- An integer is in plain notation as it stands. -/
theorem plainNotation_of_readInt? {n : Int} (hread : Decimal.readInt? (Text.trim text) = some n) :
    plainNotation text = Text.trim text := by
  have hplain : ∀ c ∈ Text.trim text, c ≠ 'f' ∧ c ≠ ',' :=
    Decimal.forall_mem_of_readInt? (P := fun c => c ≠ 'f' ∧ c ≠ ',') (by decide) (by decide)
      (fun c hc => ⟨Decimal.ne_of_isDigit hc rfl, Decimal.ne_of_isDigit hc rfl⟩) hread
  exact plainNotation_eq_trim (fun c hc => (hplain c (List.mem_of_mem_getLast? hc)).1)
    fun c hc => (hplain c hc).2

end PlainNotation

/-- The literals of words are read in plain notation. -/
theorem Word.literal?_eq_read? (w : Nat) (text : String) :
    (arithmetic w).literal? text = read? w (plainNotation text.toList) := by
  rw [arithmetic]

/-- A second reading of the text as it stands makes no difference to words: an integer that needs no
change to be read has no suffix and no comma. -/
theorem Word.literal?_eq (w : Nat) (text : String) :
    (arithmetic w).literal? text = ((arithmetic w).read? (plainNotation text.toList) <|>
      (arithmetic w).read? (Text.trim text.toList)) := by
  have hread : (arithmetic w).read? = read? w := rfl
  rw [literal?_eq_read?, hread]
  cases hretry : read? w (Text.trim text.toList) with
  | none => cases read? w (plainNotation text.toList) <;> rfl
  | some x =>
    obtain ⟨n, hn, -⟩ := Option.bind_eq_some_iff.mp hretry
    rw [plainNotation_of_readInt? hn, hretry]
    rfl

/-- The literals of floating-point numbers are read in plain notation or as they stand. -/
theorem FloatingPoint.literal?_eq {α : Type} [FloatingPoint α] (text : String) :
    (arithmetic α).literal? text = ((arithmetic α).read? (plainNotation text.toList) <|>
      (arithmetic α).read? (Text.trim text.toList)) := by
  rw [arithmetic]

namespace NumberKind

open Decimal

/-- In every kind numbers are read from numeric texts only. -/
theorem isNumeric_of_read? {kind : NumberKind} {text : List Char} {x : kind.Value}
    (hread : kind.arithmetic.read? text = some x) : ∀ c ∈ text, isNumeric c = true := by
  have hword {w : Nat} {x : BitVec w} (h : Word.read? w text = some x) :
      ∀ c ∈ text, isNumeric c = true := by
    obtain ⟨n, hn, -⟩ := Option.bind_eq_some_iff.mp h
    exact isNumeric_of_readInt? hn
  have hreal {α : Type} [FloatingPoint α] {x : α}
      (h : (FloatingPoint.arithmetic α).read? text = some x) :
      ∀ c ∈ text, isNumeric c = true := by
    obtain ⟨numeral, hnumeral, -⟩ := Option.map_eq_some_iff.mp h
    exact Decimal.isNumeric_of_read? hnumeral
  cases kind with
  | int32 | int64 => exact hword hread
  | float32 => exact @hreal Float32 _ _ hread
  | float64 => exact @hreal Float _ _ hread

/-- In every kind a second reading of the text as it stands may be added to the first one. -/
theorem literal?_eq (kind : NumberKind) (text : String) :
    kind.arithmetic.literal? text = (kind.arithmetic.read? (plainNotation text.toList) <|>
      kind.arithmetic.read? (Text.trim text.toList)) := by
  cases kind with
  | int32 => exact Word.literal?_eq 32 text
  | int64 => exact Word.literal?_eq 64 text
  | float32 => exact @FloatingPoint.literal?_eq Float32 _ text
  | float64 => exact @FloatingPoint.literal?_eq Float _ text

/-- Suffixes and commas apart, a literal without the blanks around it is numeric. -/
theorem forall_mem_trim_of_literal? {P : Char → Prop}
    (hnumeric : ∀ c, isNumeric c = true → P c) (hsuffix : P 'f') (hcomma : P ',')
    {kind : NumberKind} {text : String} {x : kind.Value}
    (hliteral : kind.arithmetic.literal? text = some x) : ∀ c ∈ Text.trim text.toList, P c := by
  intro c hc
  rw [literal?_eq] at hliteral
  rcases (Option.orElse_eq_some _ _ _).mp hliteral with hread | ⟨-, hread⟩
  · obtain ⟨suffixes, htrim, hsuffixes, -⟩ :=
      Text.exists_dropTrailing_append (· == 'f') (Text.trim text.toList)
    rw [htrim, List.mem_append] at hc
    rcases hc with hkept | hdropped
    · have hplain := isNumeric_of_read? hread _ (List.mem_map_of_mem hkept)
      by_cases hc : c = ','
      · rwa [hc]
      · rw [if_neg hc] at hplain
        exact hnumeric c hplain
    · obtain rfl : c = 'f' := by simpa using hsuffixes c hdropped
      exact hsuffix
  · exact hnumeric c (isNumeric_of_read? hread c hc)

/-- A literal has no control characters but signs. -/
theorem eq_sign_of_literal? {kind : NumberKind} {text : String} {x : kind.Value}
    (hliteral : kind.arithmetic.literal? text = some x) {c : Char} (hmem : c ∈ text.toList)
    (hcontrol : isControl c = true) : c = '+' ∨ c = '-' := by
  have hsign := forall_mem_trim_of_literal? (P := fun c => isControl c = true → c = '+' ∨ c = '-')
    (fun c => eq_sign_of_isNumeric) (by decide) (by decide) hliteral
  exact hsign c (Text.mem_trim hmem (isBlank_eq_false_of_isControl hcontrol)) hcontrol

/-- Numbers are written without blanks. -/
theorem isBlank_eq_false_of_literal? {kind : NumberKind} {text : String} {x : kind.Value}
    (hliteral : kind.arithmetic.literal? text = some x) :
    ∀ c ∈ Text.trim text.toList, Text.isBlank c = false :=
  forall_mem_trim_of_literal? (P := (Text.isBlank · = false))
    (fun c => isBlank_eq_false_of_isNumeric) (by decide) (by decide) hliteral

/-- A token of a literal is no parenthesis. -/
theorem kind_ne_of_literal? {kind : NumberKind} {options : Options} {expression : String}
    {x : kind.Value} (hliteral : kind.arithmetic.literal? expression = some x) {token : Token}
    (hmarks : token.Marks (Expression.trimmed options expression)) :
    token.kind ≠ .opening ∧ token.kind ≠ .closing := by
  have hsign {c : Char} (hc : (Expression.trimmed options expression)[token.position]? = some c)
      (hcontrol : isControl c = true) : c = '+' ∨ c = '-' :=
    eq_sign_of_literal? hliteral
      (Expression.mem_of_mem_trimmed (List.mem_of_getElem? hc)) hcontrol
  constructor
  · intro hkind
    simp only [Token.Marks, hkind] at hmarks
    exact absurd (hsign hmarks (by decide)) (by decide)
  · intro hkind
    simp only [Token.Marks, hkind] at hmarks
    exact absurd (hsign hmarks (by decide)) (by decide)

end NumberKind

end Calculator
