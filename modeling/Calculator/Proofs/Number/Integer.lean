import Calculator.Proofs.Number.Notation
import Calculator.Proofs.Number.Widening

/-!
# Integer literals

A literal of an integer kind is an integer in one of its notations, with any number of suffixes
behind it and blanks around both, as long as the integer is in range. A decimal comma is never part
of one, although it is read as a point: no integer is written with a point. Suffixes stand directly
behind a digit, because blanks that only show when they are removed are not trimmed.
-/

namespace Calculator

/-- A text without blanks is what is left of it between blanks. -/
theorem Text.trim_between {leading text trailing : List Char} (hne : text ≠ [])
    (hleading : ∀ c ∈ leading, isBlank c = true) (hplain : ∀ c ∈ text, isBlank c = false)
    (htrailing : ∀ c ∈ trailing, isBlank c = true) :
    trim (leading ++ (text ++ trailing)) = text := by
  have hbegin : ∀ c ∈ (text ++ trailing).head?, isBlank c = false := by
    rw [List.head?_append_of_ne_nil _ hne]
    exact fun c hc => hplain c (List.mem_of_mem_head? hc)
  rw [trim, dropWhile_span hleading hbegin]
  exact dropTrailing_span htrailing fun c hc => hplain c (List.mem_of_mem_getLast? hc)

namespace Decimal

/-- The notations of integers as literals: an optional sign and digits, any number of suffixes, and
blanks around them. -/
inductive WritesLiteral : List Char → Int → Prop
  | intro {leading number trailing : List Char} {n : Int} (suffixes : Nat)
      (hleading : ∀ c ∈ leading, Text.isBlank c = true) (hnumber : WritesInt number n)
      (htrailing : ∀ c ∈ trailing, Text.isBlank c = true) :
      WritesLiteral (leading ++ (number ++ List.replicate suffixes 'f' ++ trailing)) n

variable {text number : List Char} {n : Int}

/-- An integer has a digit. -/
theorem WritesInt.ne_nil (hnumber : WritesInt number n) : number ≠ [] := by
  obtain ⟨sign, hdigits⟩ := hnumber
  simp [hdigits.1]

/-- An integer is written without blanks, suffixes, commas and points. -/
theorem WritesInt.plain (hnumber : WritesInt number n) :
    ∀ c ∈ number, Text.isBlank c = false ∧ c ≠ 'f' ∧ c ≠ ',' ∧ c ≠ '.' := by
  refine forall_mem_of_readInt? ?_ ?_ (fun c hdigit => ?_) (readInt?_eq_some_iff.mpr hnumber)
  · decide
  · decide
  · have hblank := isBlank_eq_false_of_isNumeric (isNumeric_of_isDigit hdigit)
    exact ⟨hblank, ne_of_isDigit hdigit rfl, ne_of_isDigit hdigit rfl, ne_of_isDigit hdigit rfl⟩

/-- A text whose plain notation is that of an integer is one of its notations as a literal. -/
theorem writesLiteral_of_plainNotation (hplain : WritesInt (plainNotation text) n) :
    WritesLiteral text n := by
  obtain ⟨leading, trailing, htext, hleading, htrailing⟩ := Text.exists_trim text
  obtain ⟨dropped, htrim, hdropped, -⟩ :=
    Text.exists_dropTrailing_append (· == 'f') (Text.trim text)
  have hsuffixes : dropped = List.replicate dropped.length 'f' :=
    List.eq_replicate_iff.mpr ⟨rfl, by simpa using hdropped⟩
  -- A comma would have been replaced by a point, and no integer is written with one.
  have hcomma : ∀ c ∈ Text.dropTrailing (· == 'f') (Text.trim text), c ≠ ',' := by
    rintro _ hc rfl
    exact (hplain.plain '.' (List.mem_map.mpr ⟨',', hc, rfl⟩)).2.2.2 rfl
  rw [plainNotation, map_comma_eq_self hcomma] at hplain
  rw [htext, htrim, hsuffixes]
  exact .intro _ hleading hplain htrailing

/-- The plain notation of a literal is its integer, without the suffixes and the blanks. -/
theorem WritesLiteral.writesInt (hliteral : WritesLiteral text n) :
    WritesInt (plainNotation text) n := by
  obtain ⟨suffixes, hleading, hnumber, htrailing⟩ := hliteral
  rename_i leading number trailing
  have hne : number ++ List.replicate suffixes 'f' ≠ [] := by simp [hnumber.ne_nil]
  have hblank : ∀ c ∈ number ++ List.replicate suffixes 'f', Text.isBlank c = false := by
    refine List.forall_mem_append.mpr ⟨fun c hc => (hnumber.plain c hc).1, fun c hc => ?_⟩
    rw [List.eq_of_mem_replicate hc]
    decide
  have hkept : Text.dropTrailing (· == 'f') (number ++ List.replicate suffixes 'f') = number := by
    refine Text.dropTrailing_span (fun c hc => ?_) fun c hc => ?_
    · simpa using List.eq_of_mem_replicate hc
    · simpa using (hnumber.plain c (List.mem_of_mem_getLast? hc)).2.1
  rw [plainNotation, Text.trim_between hne hleading hblank htrailing, hkept,
    map_comma_eq_self fun c hc => (hnumber.plain c hc).2.2.1]
  exact hnumber

end Decimal

namespace Word

open Decimal

variable {w : Nat}

/-- A literal of a word is a notation of an integer in range, and stands for it. -/
theorem map_toInt_literal?_eq_some_iff (hw : 0 < w) {text : String} {n : Int} :
    ((arithmetic w).literal? text).map BitVec.toInt = some n ↔
      WritesLiteral text.toList n ∧ InRange w n := by
  rw [literal?_eq_read?, Option.map_eq_some_iff]
  constructor
  · rintro ⟨x, hread, rfl⟩
    exact ⟨writesLiteral_of_plainNotation ((read?_eq_some_iff hw).mp hread), range_toInt x⟩
  · rintro ⟨hliteral, hrange⟩
    have hn := toInt_ofInt hw hrange
    refine ⟨BitVec.ofInt w n, (read?_eq_some_iff hw).mpr ?_, hn⟩
    rw [hn]
    exact hliteral.writesInt

/-- The text of a word is a literal that stands for it. -/
theorem literal?_text (hw : 0 < w) (x : BitVec w) :
    (arithmetic w).literal? ((arithmetic w).text x) = some x := by
  have hliteral : WritesLiteral ((arithmetic w).text x).toList x.toInt := by
    have hwrites := @WritesLiteral.intro [] _ [] _ 0 nofun (writesInt_writeInt x.toInt) nofun
    rwa [List.replicate_zero, List.append_nil, List.append_nil, List.nil_append] at hwrites
  obtain ⟨y, hy, hsame⟩ := Option.map_eq_some_iff.mp
    ((map_toInt_literal?_eq_some_iff hw).mpr ⟨hliteral, range_toInt x⟩)
  rw [hy, BitVec.toInt_inj.mp hsame]

end Word

open Decimal

/-- The literals of the integer kinds are exactly the notations of integers in the range of the kind,
with any number of suffixes and blanks around them, and each stands for its integer. The text of
every number of the kind, the smallest one included, is a literal that stands for it. -/
theorem NumberKind.integerLiterals :
    (∀ (text : String) (n : Int),
      (int32.arithmetic.literal? text).map BitVec.toInt = some n ↔
        WritesLiteral text.toList n ∧ Word.InRange 32 n) ∧
    (∀ (text : String) (n : Int),
      (int64.arithmetic.literal? text).map BitVec.toInt = some n ↔
        WritesLiteral text.toList n ∧ Word.InRange 64 n) ∧
    (∀ x : int32.Value, int32.arithmetic.literal? (int32.arithmetic.text x) = some x) ∧
    ∀ x : int64.Value, int64.arithmetic.literal? (int64.arithmetic.text x) = some x :=
  ⟨fun _ _ => Word.map_toInt_literal?_eq_some_iff (by decide),
    fun _ _ => Word.map_toInt_literal?_eq_some_iff (by decide),
    Word.literal?_text (by decide), Word.literal?_text (by decide)⟩

end Calculator
