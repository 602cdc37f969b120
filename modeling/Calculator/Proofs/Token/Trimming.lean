import Calculator.Expression
import Calculator.Proofs.Token.Scanning

/-!
# Trimming

An expression is scanned without the blanks around it and, if the options say so, without the
operators that dangle at its end. If the last character that is no blank is not an operator, the
options play no part, and the tokens are those of the text behind the leading blanks.
-/

namespace Calculator

namespace Text

variable {p : Char → Bool}

/-- What is dropped is the longest end with the property. -/
theorem dropTrailing_span {text dropped : List Char} (hdropped : ∀ d ∈ dropped, p d = true)
    (hlast : ∀ c ∈ text.getLast?, p c = false) : dropTrailing p (text ++ dropped) = text := by
  have hkept := @dropWhile_span _ p dropped.reverse text.reverse (by simpa using hdropped)
    (by simpa using hlast)
  rw [dropTrailing, List.reverse_append, hkept, List.reverse_reverse]

/-- A text whose last character has not the property is kept. -/
theorem dropTrailing_eq_self {text : List Char} (hlast : ∀ c ∈ text.getLast?, p c = false) :
    dropTrailing p text = text := by
  have hkept := @dropTrailing_span p text [] (List.forall_mem_nil _) hlast
  rwa [List.append_nil] at hkept

/-- A text is kept up to its last character without the property. -/
theorem dropTrailing_append {text dropped : List Char} {c : Char} (hc : p c = false)
    (hdropped : ∀ d ∈ dropped, p d = true) :
    dropTrailing p (text ++ c :: dropped) = text ++ [c] := by
  have hlast : ∀ d ∈ (text ++ [c]).getLast?, p d = false := by simpa using hc
  rw [← dropTrailing_span hdropped hlast, List.append_assoc, List.singleton_append]

/-- A text is what is left of it and the end that was dropped. -/
theorem exists_dropTrailing_append (p : Char → Bool) (text : List Char) :
    ∃ dropped, text = dropTrailing p text ++ dropped ∧ (∀ d ∈ dropped, p d = true) ∧
      ∀ c ∈ (dropTrailing p text).getLast?, p c = false := by
  obtain ⟨dropped, kept, hreverse, hdropped, hkept⟩ := exists_span p text.reverse
  have hleft : dropTrailing p text = kept.reverse := by
    rw [dropTrailing, hreverse, dropWhile_span hdropped hkept]
  refine ⟨dropped.reverse, ?_, by simpa using hdropped, ?_⟩
  · rw [hleft, ← List.reverse_append, ← hreverse, List.reverse_reverse]
  · rwa [hleft, List.getLast?_reverse]

/-- What is left of a text is part of it. -/
theorem mem_of_mem_dropTrailing {text : List Char} {c : Char} (hc : c ∈ dropTrailing p text) :
    c ∈ text := by
  rw [dropTrailing, List.mem_reverse] at hc
  exact List.mem_reverse.mp ((List.dropWhile_sublist p).subset hc)

/-- A character without the property is not dropped from the beginning. -/
theorem mem_dropWhile {text : List Char} {c : Char} (hmem : c ∈ text) (hc : p c = false) :
    c ∈ text.dropWhile p := by
  rw [← @List.takeWhile_append_dropWhile _ p text, List.mem_append] at hmem
  refine hmem.resolve_left fun htaken => ?_
  rw [List.mem_takeWhile_imp htaken] at hc
  cases hc

/-- A character without the property is not dropped from the end. -/
theorem mem_dropTrailing {text : List Char} {c : Char} (hmem : c ∈ text) (hc : p c = false) :
    c ∈ dropTrailing p text := by
  rw [dropTrailing, List.mem_reverse]
  exact mem_dropWhile (List.mem_reverse.mpr hmem) hc

/-- A character other than a blank is not trimmed. -/
theorem mem_trim {text : List Char} {c : Char} (hmem : c ∈ text) (hc : isBlank c = false) :
    c ∈ trim text :=
  mem_dropTrailing (mem_dropWhile hmem hc) hc

/-- A trimmed text has no other characters. -/
theorem mem_of_mem_trim {text : List Char} {c : Char} (hc : c ∈ trim text) : c ∈ text :=
  (List.dropWhile_sublist _).subset (mem_of_mem_dropTrailing hc)

/-- A text is its trimmed form between blanks. -/
theorem exists_trim (text : List Char) :
    ∃ leading trailing, text = leading ++ (trim text ++ trailing) ∧
      (∀ c ∈ leading, isBlank c = true) ∧ ∀ c ∈ trailing, isBlank c = true := by
  obtain ⟨trailing, hrest, htrailing, -⟩ :=
    exists_dropTrailing_append isBlank (text.dropWhile isBlank)
  refine ⟨text.takeWhile isBlank, trailing, ?_, fun c hc => List.mem_takeWhile_imp hc, htrailing⟩
  rw [trim, ← hrest, List.takeWhile_append_dropWhile]

variable {text : List Char}

/-- The characters of a text that are not blanks. -/
def filled (text : List Char) : List Char :=
  text.filter (!isBlank ·)

/-- Both parts of a text are kept but for the blanks. -/
theorem filled_append (first second : List Char) :
    filled (first ++ second) = filled first ++ filled second :=
  List.filter_append first second

/-- A character other than a blank stays in front. -/
theorem filled_cons {c : Char} (hc : isBlank c = false) (text : List Char) :
    filled (c :: text) = c :: filled text :=
  List.filter_cons_of_pos (by simp [hc])

/-- A text without blanks is kept. -/
theorem filled_eq_self (hplain : ∀ c ∈ text, isBlank c = false) : filled text = text :=
  List.filter_eq_self.mpr (by simpa using hplain)

/-- Of blanks nothing is kept. -/
theorem filled_eq_nil (hblanks : ∀ c ∈ text, isBlank c = true) : filled text = [] := by
  simpa [filled, List.filter_eq_nil_iff] using hblanks

/-- What is kept is no blank. -/
theorem isBlank_of_mem_filled {c : Char} (hc : c ∈ filled text) : isBlank c = false := by
  simpa using (List.mem_filter.mp hc).2

/-- Only blanks are dropped in front. -/
theorem filled_dropWhile (text : List Char) : filled (text.dropWhile isBlank) = filled text := by
  have hblanks := filled_eq_nil fun c (hc : c ∈ text.takeWhile isBlank) => List.mem_takeWhile_imp hc
  rw [← @List.takeWhile_append_dropWhile _ isBlank text, filled_append, hblanks,
    List.takeWhile_append_dropWhile, List.nil_append]

/-- Only blanks are trimmed. -/
theorem filled_trim (text : List Char) : filled (trim text) = filled text := by
  obtain ⟨leading, trailing, hsplit, hleading, htrailing⟩ := exists_trim text
  have hwhole := congrArg filled hsplit
  rw [filled_append, filled_append, filled_eq_nil hleading, filled_eq_nil htrailing,
    List.append_nil, List.nil_append] at hwhole
  exact hwhole.symm

/-- A trimmed text does not end in a blank. -/
theorem isBlank_of_getLast?_trim {c : Char} (hc : c ∈ (trim text).getLast?) : isBlank c = false :=
  (exists_dropTrailing_append isBlank (text.dropWhile isBlank)).choose_spec.2.2 c hc

/-- A trimmed text ends in the last character other than a blank. -/
theorem getLast?_filled (text : List Char) : (filled text).getLast? = (trim text).getLast? := by
  rw [← filled_trim]
  cases hlast : (trim text).getLast? with
  | none => rw [List.getLast?_eq_none_iff.mp hlast]; rfl
  | some c =>
    obtain ⟨before, htrim⟩ := List.getLast?_eq_some_iff.mp hlast
    have hc := filled_eq_self (List.forall_mem_singleton.mpr (isBlank_of_getLast?_trim hlast))
    rw [htrim, filled_append, hc, List.getLast?_concat]

end Text

namespace Expression

open Text

/-- An expression that does not end in an operator is trimmed only. -/
theorem trimmed_eq_trim (options : Options) {expression : String}
    (hend : ∀ c ∈ (filled expression.toList).getLast?, (CharRoles.ofChar c).binary = false) :
    trimmed options expression = trim expression.toList := by
  rw [getLast?_filled] at hend
  have hnone : dropDangling (trim expression.toList) = trim expression.toList := by
    unfold dropDangling
    split
    · rename_i c hlast
      rw [hend c hlast, if_neg Bool.false_ne_true]
    · rfl
  simp only [trimmed, hnone, ite_self]

/-- An expression that ends in an operator is followed by copies of the operator that were
dropped. -/
theorem exists_trim_eq_append {options : Options} (hdrop : options.dropDangling = true)
    {expression : String} {c : Char} (hlast : c ∈ (filled expression.toList).getLast?)
    (hbinary : (CharRoles.ofChar c).binary = true) :
    ∃ k, trim expression.toList = trimmed options expression ++ List.replicate (k + 1) c := by
  rw [getLast?_filled, Option.mem_def] at hlast
  have htrimmed : trimmed options expression =
      dropTrailing (· == c) (trim expression.toList) := by
    simp only [trimmed, hdrop, dropDangling, hlast, hbinary, if_true]
  obtain ⟨dropped, hsplit, hdropped, hkept⟩ :=
    exists_dropTrailing_append (· == c) (trim expression.toList)
  rw [htrimmed]
  have hcopies : dropped = List.replicate dropped.length c :=
    List.eq_replicate_iff.mpr ⟨rfl, by simpa using hdropped⟩
  cases dropped with
  | nil =>
    rw [List.append_nil] at hsplit
    rw [← hsplit] at hkept
    simpa using hkept c hlast
  | cons d rest => exact ⟨rest.length, hcopies ▸ hsplit⟩

/-- The part of an expression that is evaluated has no other characters. -/
theorem mem_of_mem_trimmed {options : Options} {expression : String} {c : Char}
    (hc : c ∈ trimmed options expression) : c ∈ expression.toList := by
  have hdangling : ∀ d ∈ dropDangling (Text.trim expression.toList), d ∈ expression.toList := by
    intro d hd
    unfold dropDangling at hd
    split at hd
    · split at hd
      · exact Text.mem_of_mem_trim (Text.mem_of_mem_dropTrailing hd)
      · exact Text.mem_of_mem_trim hd
    · exact Text.mem_of_mem_trim hd
  unfold trimmed at hc
  simp only at hc
  split at hc
  · exact hdangling c hc
  · exact Text.mem_of_mem_trim hc

/-- The tokens of a text between blanks that does not end in an operator are those of the text
behind the leading blanks, whatever the options. -/
theorem tokens_eq_of_ends {expression : String} {leading text trailing : List Char} {c : Char}
    (hexpression : expression.toList = leading ++ (text ++ c :: trailing))
    (hleading : ∀ d ∈ leading, Text.isBlank d = true)
    (htrailing : ∀ d ∈ trailing, Text.isBlank d = true)
    (hhead : ∀ d ∈ (text ++ [c]).head?, Text.isBlank d = false)
    (hc : Text.isBlank c = false) (hbinary : (CharRoles.ofChar c).binary = false)
    (options : Options) :
    tokens options expression = (Scanner.ofList (text ++ c :: trailing)).tokens := by
  have hbegin : ∀ d ∈ (text ++ c :: trailing).head?, Text.isBlank d = false := by
    cases text <;> simpa using hhead
  have htrim : Text.trim expression.toList = text ++ [c] := by
    rw [Text.trim, hexpression, dropWhile_span hleading hbegin,
      Text.dropTrailing_append hc htrailing]
  have hlast : (text ++ [c]).getLast? = some c := by simp
  have htrimmed : trimmed options expression = text ++ [c] := by
    simp only [trimmed, htrim, dropDangling, hlast, hbinary]
    simp
  have happend := Scanner.tokens_append_blanks ⟨text ++ [c], 0⟩ htrailing
  simp only [List.append_assoc, List.singleton_append] at happend
  rw [tokens, htrimmed, Scanner.ofList, Scanner.ofList, happend]

end Expression

end Calculator
