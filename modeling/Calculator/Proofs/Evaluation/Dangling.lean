import Calculator.Proofs.Evaluation.Literal

/-!
# Dangling operators

Operators that dangle at the end of an expression are dropped before it is scanned, so that they
change no token. They do change whether the text is read as a literal, since no literal ends in an
operator: behind a literal, dangling operators send it through the stages.
-/

namespace Calculator

open Text Token

variable {options : Options} {expression : String} {c : Char} {count : Nat}

section Tokens

variable (hdrop : options.dropDangling = true)
  (hend : ∀ d ∈ (filled expression.toList).getLast?, (CharRoles.ofChar d).binary = false)
  (hbinary : (CharRoles.ofChar c).binary = true) (hcount : 0 < count)
include hbinary hcount

/-- With operators dangling, only the blanks in front are trimmed. -/
theorem trim_append_replicate (text : List Char) :
    trim (text ++ List.replicate count c) = text.dropWhile isBlank ++ List.replicate count c := by
  have hc := isBlank_eq_false_of_binary hbinary
  have hcopies : ∀ d ∈ List.replicate count c, isBlank d = false := fun d hd => by
    rwa [List.eq_of_mem_replicate hd]
  obtain ⟨count, rfl⟩ := Nat.exists_eq_succ_of_ne_zero hcount.ne'
  obtain ⟨blanks, rest, rfl, hblanks, hhead⟩ := exists_span isBlank text
  have hstop : ∀ d ∈ (rest ++ List.replicate (count + 1) c).head?, isBlank d = false := by
    cases rest with
    | nil => exact fun d hd => hcopies d (List.mem_of_mem_head? hd)
    | cons first rest => exact hhead
  rw [trim, List.append_assoc, dropWhile_span hblanks hstop, dropWhile_span hblanks hhead]
  refine dropTrailing_eq_self fun d hd => ?_
  rw [List.getLast?_append_of_ne_nil _ (by simp)] at hd
  exact hcopies d (List.mem_of_mem_getLast? hd)

/-- The last of the dangling operators is the last character. -/
theorem getLast?_trim_append_replicate (text : List Char) :
    (trim (text ++ List.replicate count c)).getLast? = some c := by
  rw [trim_append_replicate hbinary hcount]
  obtain ⟨count, rfl⟩ := Nat.exists_eq_succ_of_ne_zero hcount.ne'
  rw [List.replicate_succ', ← List.append_assoc, List.getLast?_concat]

/-- With operators dangling at its end an expression is no literal. -/
theorem literal?_append_replicate (kind : NumberKind) (expression : String) :
    kind.arithmetic.literal? (expression ++ String.ofList (List.replicate count c)) = none := by
  rw [Option.eq_none_iff_forall_ne_some]
  intro x hliteral
  have hlast := binary_getLast?_of_literal? hliteral
  rw [String.toList_append, String.toList_ofList, getLast?_filled,
    getLast?_trim_append_replicate hbinary hcount] at hlast
  have hother := hlast c rfl
  rw [hbinary] at hother
  cases hother

include hdrop hend

/-- All copies of a dangling operator are dropped. -/
theorem Expression.trimmed_append_replicate :
    trimmed options (expression ++ String.ofList (List.replicate count c)) =
      expression.toList.dropWhile isBlank := by
  have hlast := getLast?_trim_append_replicate hbinary hcount expression.toList
  have hkept : ∀ d ∈ (expression.toList.dropWhile isBlank).getLast?, (d == c) = false := by
    intro d hd
    by_contra hsame
    obtain rfl : d = c := by simpa using hsame
    obtain ⟨before, hsplit⟩ := List.getLast?_eq_some_iff.mp hd
    have hfilled : filled expression.toList = filled before ++ [d] := by
      have hd := filled_eq_self (List.forall_mem_singleton.mpr (isBlank_eq_false_of_binary hbinary))
      rw [← filled_dropWhile, hsplit, filled_append, hd]
    have hother := hend d (by rw [hfilled, List.getLast?_concat]; rfl)
    rw [hbinary] at hother
    cases hother
  simp only [trimmed, dropDangling, hdrop, String.toList_append, String.toList_ofList, hlast,
    hbinary, if_true]
  rw [trim_append_replicate hbinary hcount]
  exact dropTrailing_span (by simp) hkept

/-- Dangling operators change no token. -/
theorem Expression.tokens_append_replicate :
    tokens options (expression ++ String.ofList (List.replicate count c)) =
      tokens options expression := by
  obtain ⟨trailing, hsplit, htrailing, -⟩ :=
    exists_dropTrailing_append isBlank (expression.toList.dropWhile isBlank)
  rw [tokens, tokens, trimmed_append_replicate hdrop hend hbinary hcount,
    trimmed_eq_trim options hend, hsplit]
  exact Scanner.tokens_append_blanks (Scanner.ofList (trim expression.toList)) htrailing

/-- With operators dangling at its end an expression has the outcome of its stages. -/
theorem evaluate_append_replicate (kind : NumberKind) (source : Variables kind.Value) :
    evaluate kind options source (expression ++ String.ofList (List.replicate count c)) =
      (evaluateStages kind.arithmetic options source expression).result := by
  rw [evaluate_eq_bind (literal?_append_replicate hbinary hcount kind expression),
    result_evaluateStages_eq_bind,
    Expression.tokens_append_replicate hdrop hend hbinary hcount]

end Tokens

/-- Operators at the end of an expression, which are dropped, do not change its outcome unless the
expression is a literal. Behind a literal they send it through the stages, which have its value
exactly if no operand names a variable and the signs in it are plain. -/
theorem evaluate_dangling (kind : NumberKind) (options : Options) (source : Variables kind.Value)
    (expression : String) (c : Char) (count : Nat) (hdrop : options.dropDangling = true)
    (hend : ∀ d ∈ (filled expression.toList).getLast?, (CharRoles.ofChar d).binary = false)
    (hbinary : (CharRoles.ofChar c).binary = true) (hcount : 0 < count) :
    let outcome := evaluate kind options source
      (expression ++ String.ofList (List.replicate count c))
    (kind.arithmetic.literal? expression = none →
      outcome = evaluate kind options source expression) ∧
    ∀ x, kind.arithmetic.literal? expression = some x →
      outcome = (evaluateStages kind.arithmetic options source expression).result ∧
      ((∀ token ∈ Expression.tokens options expression, token.kind = .operand →
          source token.text = none) →
        ∀ y, outcome = .ok y ↔ y = x ∧ kind.HasPlainSigns (trim expression.toList) x) := by
  intro outcome
  have hstages : outcome = (evaluateStages kind.arithmetic options source expression).result :=
    evaluate_append_replicate hdrop hend hbinary hcount kind source
  refine ⟨fun hliteral => hstages.trans (evaluate_eq_stages hliteral).symm,
    fun x hliteral => ⟨hstages, fun hnames y => ?_⟩⟩
  have hnone : (evaluateStages kind.arithmetic options source expression).result =
      (evaluateStages kind.arithmetic options Variables.none expression).result :=
    result_evaluateStages_congr hnames
  rw [hstages, hnone]
  exact result_evaluateStages_eq_ok_iff hliteral

/-- The two dangling signs behind `-5 ` are dropped with the number still negated. -/
theorem evaluate_dangling_minusFive :
    evaluate .int32 {} Variables.none ("-5 " ++ String.ofList (List.replicate 2 '*')) =
      .ok (-5#32 : BitVec 32) := by
  have hliteral : (Word.arithmetic 32).literal? "-5 " = some (-5#32) := by decide +kernel
  have hminimum : BitVec.toInt (-5#32) ≠ Word.minimum 32 := by decide
  have hend : ∀ d ∈ (filled "-5 ".toList).getLast?, (CharRoles.ofChar d).binary = false := by
    have hlast : (filled "-5 ".toList).getLast? = some '5' := by decide
    rw [hlast]
    rintro d ⟨⟩
    rfl
  exact (((evaluate_dangling .int32 {} Variables.none "-5 " '*' 2 rfl hend (by decide)
    (by decide)).2 _ hliteral).2 (fun _ _ _ => rfl) _).mpr
      ⟨rfl, by decide, by decide, fun _ => hminimum⟩

/-- A literal with a plus sign in front has no value if an operator dangles behind it. -/
theorem evaluate_danglingBehindLiteral :
    evaluate .int32 {} Variables.none "+5" = .ok (5#32 : BitVec 32) ∧
      evaluate .int32 {} Variables.none ("+5" ++ String.ofList ['*']) =
        .error (.tooFewOperands '+' 0 2 1) := by
  decide +kernel

end Calculator
