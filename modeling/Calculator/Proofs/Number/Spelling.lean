import Calculator.Proofs.Number.Literal
import Mathlib.Data.List.Chain

/-!
# How literals are spelled

A sign in a literal is its first character or stands directly behind the letter of an exponent, and
the last character is neither a sign nor such a letter. Hence what stands in front of a sign inside
of a literal is not a literal itself, and no operator dangles at the end of a literal.
-/

namespace Calculator

namespace Decimal

/-- Whether a character begins a decimal exponent. -/
def isExponentLetter (c : Char) : Bool :=
  c == 'e' || c == 'E'

/-- How a number is spelled: only the letter of an exponent stands in front of a sign, and the last
character is neither a sign nor such a letter. -/
structure IsSpelled (text : List Char) : Prop where
  signs : text.IsChain fun before c => isControl c = true → isExponentLetter before = true
  last : ∃ c ∈ text.getLast?, isControl c = false ∧ isExponentLetter c = false

/-- How a number without a sign in front is spelled. -/
structure IsUnsigned (text : List Char) : Prop extends IsSpelled text where
  head : ∀ c ∈ text.head?, isControl c = false

/-- A number has a character. -/
theorem IsSpelled.ne_nil {text : List Char} (htext : IsSpelled text) : text ≠ [] := by
  obtain ⟨last, hmem, -⟩ := htext.last
  exact List.ne_nil_of_mem (List.mem_of_mem_getLast? hmem)

/-- A text without control characters and letters of exponents is spelled as an unsigned number. -/
theorem isUnsigned_of_plain {text : List Char} (hne : text ≠ [])
    (hplain : ∀ c ∈ text, isControl c = false ∧ isExponentLetter c = false) : IsUnsigned text := by
  have hpairs : text.Pairwise fun before c => isControl c = true → isExponentLetter before = true :=
    List.pairwise_of_forall_mem_list fun before _ c hc hcontrol => by
      rw [(hplain c hc).1] at hcontrol
      cases hcontrol
  exact {
    signs := hpairs.isChain
    last := ⟨text.getLast hne, List.getLast?_eq_some_getLast hne, hplain _ (List.getLast_mem hne)⟩
    head := fun c hc => (hplain c (List.mem_of_mem_head? hc)).1 }

/-- A sign in front of an unsigned number. -/
theorem IsUnsigned.cons {text : List Char} (htext : IsUnsigned text) (sign : Char) :
    IsSpelled (sign :: text) := by
  obtain ⟨last, hmem, hlast⟩ := htext.last
  constructor
  · refine List.isChain_cons.mpr ⟨fun c hc hcontrol => ?_, htext.signs⟩
    rw [htext.head c hc] at hcontrol
    cases hcontrol
  · exact ⟨last, by simp [List.getLast?_cons, Option.mem_def.mp hmem], hlast⟩

/-- A text is spelled as a number if it is unsigned behind its sign. -/
theorem isSpelled_of_takeSign {text : List Char} (hrest : IsUnsigned (takeSign text).2) :
    IsSpelled text := by
  unfold takeSign at hrest
  split at hrest
  · exact hrest.cons '-'
  · exact hrest.cons '+'
  · exact hrest.toIsSpelled

/-- No digit is a control character or the letter of an exponent. -/
theorem plain_of_isDigit {c : Char} (hdigit : c.isDigit = true) :
    isControl c = false ∧ isExponentLetter c = false := by
  have hmarks : controlChars.all (!Char.isDigit ·) = true := by decide
  refine ⟨Bool.eq_false_iff.mpr fun hcontrol => ?_, Bool.eq_false_iff.mpr fun hletter => ?_⟩
  · have hplain := List.all_eq_true.mp hmarks c (mem_of_isControl hcontrol)
    rw [hdigit] at hplain
    cases hplain
  · obtain rfl | rfl : c = 'e' ∨ c = 'E' := by simpa [isExponentLetter] using hletter
    all_goals cases hdigit

/-- Digits are spelled as an unsigned number. -/
theorem isUnsigned_of_readDigits? {text : List Char} {n : Nat}
    (hread : readDigits? text = some n) : IsUnsigned text := by
  refine isUnsigned_of_plain ?_ fun c hc => plain_of_isDigit (isDigit_of_readDigits? hread c hc)
  rintro rfl
  cases hread

/-- What is read as an integer is spelled as a number. -/
theorem isSpelled_of_readInt? {text : List Char} {n : Int} (hread : readInt? text = some n) :
    IsSpelled text := by
  obtain ⟨magnitude, hmagnitude, -⟩ := Option.map_eq_some_iff.mp hread
  obtain ⟨digits, hdigits, -⟩ := Option.bind_eq_some_iff.mp hmagnitude
  exact isSpelled_of_takeSign (isUnsigned_of_readDigits? hdigits)

/-- A decimal exponent behind an unsigned number. -/
theorem IsUnsigned.append_exponent {mantissa exponent : List Char} {n : Int}
    (hmantissa : IsUnsigned mantissa) (hread : readExponent? exponent = some n) :
    IsUnsigned (mantissa ++ exponent) := by
  fun_cases readExponent? exponent with
  | case1 => rwa [List.append_nil]
  | case2 letter rest hletter =>
    rw [readExponent?, if_pos hletter] at hread
    obtain ⟨hsigns, last, hmem, hlast⟩ := isSpelled_of_readInt? hread
    have hbefore : isExponentLetter letter = true := by simpa [isExponentLetter] using hletter
    have hplain : isControl letter = false := by rcases hletter with rfl | rfl <;> rfl
    refine ⟨⟨?_, last, ?_, hlast⟩, ?_⟩
    · refine List.isChain_append.mpr ⟨hmantissa.signs, ?_, ?_⟩
      · exact List.isChain_cons.mpr ⟨fun _ _ _ => hbefore, hsigns⟩
      · intro before _ c hc hcontrol
        simp only [List.head?_cons, Option.mem_def, Option.some.injEq] at hc
        rw [← hc, hplain] at hcontrol
        cases hcontrol
    · simp [List.getLast?_append, List.getLast?_cons, Option.mem_def.mp hmem]
    · rw [List.head?_append_of_ne_nil _ hmantissa.ne_nil]
      exact hmantissa.head
  | case3 letter rest hletter =>
    rw [readExponent?, if_neg hletter] at hread
    cases hread

/-- Digits with a point among them are spelled as an unsigned number, and what may stand behind them
is an exponent. -/
theorem exists_mantissa {text : List Char} {n : Nat}
    (hread : readDigits? (text.takeWhile Char.isDigit ++
      (takeFraction (text.dropWhile Char.isDigit)).1) = some n) :
    ∃ mantissa, text = mantissa ++ (takeFraction (text.dropWhile Char.isDigit)).2 ∧
      IsUnsigned mantissa := by
  have hplain (c : Char) (hc : c ∈ text.takeWhile Char.isDigit) :
      isControl c = false ∧ isExponentLetter c = false :=
    plain_of_isDigit (List.mem_takeWhile_imp hc)
  have htext := (@List.takeWhile_append_dropWhile _ Char.isDigit text).symm
  generalize text.takeWhile Char.isDigit = whole at *
  generalize text.dropWhile Char.isDigit = behind at *
  fun_cases takeFraction behind with
  | case1 rest =>
    refine ⟨whole ++ '.' :: rest.takeWhile Char.isDigit, ?_, isUnsigned_of_plain (by simp) ?_⟩
    · rw [List.append_assoc, List.cons_append, List.takeWhile_append_dropWhile, htext]
    · intro c hc
      rcases List.mem_append.mp hc with hwhole | hfraction
      · exact hplain c hwhole
      · rcases List.mem_cons.mp hfraction with rfl | hdigit
        · exact ⟨rfl, rfl⟩
        · exact plain_of_isDigit (List.mem_takeWhile_imp hdigit)
  | case2 =>
    rw [takeFraction, List.append_nil] at hread
    · exact ⟨whole, htext, isUnsigned_of_readDigits? hread⟩
    · assumption

/-- The letters of the words for numbers. -/
def wordLetters : List Char :=
  ['i', 'n', 'f', 't', 'y', 'a']

/-- A word for a number is spelled as an unsigned number. -/
theorem isUnsigned_of_map_toLower {text word : List Char} (hword : text.map Char.toLower = word)
    (hletters : word.all (wordLetters.contains ·) = true) (hne : word ≠ []) : IsUnsigned text := by
  have hlower (c : Char) (hc : c ∈ text) : wordLetters.contains c.toLower = true :=
    List.all_eq_true.mp hletters _ (hword ▸ List.mem_map_of_mem hc)
  have hmarks : controlChars.all (fun c => !wordLetters.contains c.toLower) = true := by decide
  refine isUnsigned_of_plain ?_ fun c hc =>
    ⟨Bool.eq_false_iff.mpr fun hcontrol => ?_, Bool.eq_false_iff.mpr fun hletter => ?_⟩
  · rintro rfl
    exact hne hword.symm
  · have hplain := List.all_eq_true.mp hmarks c (mem_of_isControl hcontrol)
    rw [hlower c hc] at hplain
    cases hplain
  · have hexponent := hlower c hc
    obtain rfl | rfl : c = 'e' ∨ c = 'E' := by simpa [isExponentLetter] using hletter
    all_goals exact absurd hexponent (by decide)

/-- What is read as a real number without a sign is spelled so. -/
theorem isUnsigned_of_readMagnitude? {negative : Bool} {text : List Char} {numeral : Numeral}
    (hread : readMagnitude? negative text = some numeral) : IsUnsigned text := by
  unfold readMagnitude? at hread
  simp only at hread
  split at hread
  · rename_i hword
    exact isUnsigned_of_map_toLower hword (by decide) (by decide)
  · split at hread
    · rename_i hword
      rcases hword with hword | hword
      · exact isUnsigned_of_map_toLower hword (by decide) (by decide)
      · exact isUnsigned_of_map_toLower hword (by decide) (by decide)
    · split at hread
      · rename_i significand exponent hsignificand hexponent
        obtain ⟨mantissa, htext, hmantissa⟩ := exists_mantissa hsignificand
        rw [htext]
        exact hmantissa.append_exponent hexponent
      · cases hread

/-- What is read as a real number is spelled as a number. -/
theorem isSpelled_of_read? {text : List Char} {numeral : Numeral}
    (hread : Numeral.read? text = some numeral) : IsSpelled text := by
  have hmagnitude : readMagnitude? (takeSign text).1 (takeSign text).2 = some numeral := hread
  exact isSpelled_of_takeSign (isUnsigned_of_readMagnitude? hmagnitude)

/-- More plain characters behind a number. -/
theorem IsSpelled.append {text more : List Char} (htext : IsSpelled text)
    (hmore : ∀ c ∈ more, isControl c = false ∧ isExponentLetter c = false) :
    IsSpelled (text ++ more) := by
  cases more with
  | nil => rwa [List.append_nil]
  | cons next rest =>
    have hrest := isUnsigned_of_plain (List.cons_ne_nil next rest) hmore
    obtain ⟨last, hmem, hlast⟩ := hrest.last
    constructor
    · refine List.isChain_append.mpr ⟨htext.signs, hrest.signs, fun _ _ c hc hcontrol => ?_⟩
      rw [hrest.head c hc] at hcontrol
      cases hcontrol
    · exact ⟨last, by simp [List.getLast?_append, Option.mem_def.mp hmem], hlast⟩

/-- Commas for points do not change how a number is spelled. -/
theorem isSpelled_of_map {text : List Char}
    (hpoints : IsSpelled (text.map fun c => if c = ',' then '.' else c)) : IsSpelled text := by
  have hplain (c : Char) : isControl (if c = ',' then '.' else c) = isControl c ∧
      isExponentLetter (if c = ',' then '.' else c) = isExponentLetter c := by
    split
    · rename_i hcomma
      rw [hcomma]
      exact ⟨rfl, rfl⟩
    · exact ⟨rfl, rfl⟩
  obtain ⟨hsigns, last, hmem, hlast⟩ := hpoints
  simp only [List.isChain_map, hplain] at hsigns
  rw [List.getLast?_map, Option.mem_def, Option.map_eq_some_iff] at hmem
  obtain ⟨c, hc, rfl⟩ := hmem
  simp only [hplain] at hlast
  exact ⟨hsigns, c, hc, hlast⟩

/-- Suffixes and commas do not change how a literal is spelled. -/
theorem isSpelled_of_plainNotation {text : List Char} (hplain : IsSpelled (plainNotation text)) :
    IsSpelled (Text.trim text) := by
  obtain ⟨suffixes, htext, hsuffixes, -⟩ :=
    Text.exists_dropTrailing_append (· == 'f') (Text.trim text)
  rw [htext]
  refine (isSpelled_of_map hplain).append fun c hc => ?_
  obtain rfl : c = 'f' := by simpa using hsuffixes c hc
  exact ⟨rfl, rfl⟩

end Decimal

namespace NumberKind

open Decimal

/-- In every kind numbers are read from texts that are spelled as numbers. -/
theorem isSpelled_of_read? {kind : NumberKind} {text : List Char} {x : kind.Value}
    (hread : kind.arithmetic.read? text = some x) : IsSpelled text := by
  have hword {w : Nat} {x : BitVec w} (h : Word.read? w text = some x) : IsSpelled text := by
    obtain ⟨n, hn, -⟩ := Option.bind_eq_some_iff.mp h
    exact isSpelled_of_readInt? hn
  have hreal {α : Type} [FloatingPoint α] {x : α}
      (h : (FloatingPoint.arithmetic α).read? text = some x) : IsSpelled text := by
    obtain ⟨numeral, hnumeral, -⟩ := Option.map_eq_some_iff.mp h
    exact Decimal.isSpelled_of_read? hnumeral
  cases kind with
  | int32 | int64 => exact hword hread
  | float32 => exact @hreal Float32 _ _ hread
  | float64 => exact @hreal Float _ _ hread

/-- Without the blanks around it, a literal is spelled as a number. -/
theorem isSpelled_of_literal? {kind : NumberKind} {text : String} {x : kind.Value}
    (hliteral : kind.arithmetic.literal? text = some x) : IsSpelled (Text.trim text.toList) := by
  rw [literal?_eq] at hliteral
  rcases (Option.orElse_eq_some _ _ _).mp hliteral with hread | ⟨-, hread⟩
  · exact isSpelled_of_plainNotation (isSpelled_of_read? hread)
  · exact isSpelled_of_read? hread

end NumberKind

end Calculator
