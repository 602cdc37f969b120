import Calculator.Proofs.Evaluation.Literal
import Calculator.Proofs.Evaluation.Unplaced

/-!
# Blanks in expressions

Two expressions with the same characters but for blanks have the same value, if they have values.
Blanks decide only how many operators are dropped at the end of an expression: dropping stops at a
blank. If these are not minus signs, the number of operands leaves no choice, but a minus sign more
or less may turn one value into another one.
-/

namespace Calculator

open Text Token

namespace Token

/-- Tokens other than minus signs stay as they are. -/
theorem resolveFrom_eq_self {tokens : List Token}
    (hnone : ∀ token ∈ tokens, token.isSubtraction = false) (options : Options)
    (previous : Option Kind) : resolveFrom options previous tokens = tokens := by
  induction tokens generalizing previous with
  | nil => rfl
  | cons token rest ih =>
    obtain ⟨htoken, hrest⟩ := List.forall_mem_cons.mp hnone
    simp only [resolveFrom, resolveAfter, htoken, Bool.false_and, Bool.false_eq_true, if_false,
      ih hrest]

/-- Binary operators other than minus signs add to the number of binary operators. -/
theorem countP_isBinary_resolveFrom_append {tokens more : List Token}
    (hmore : ∀ token ∈ more, token.isSubtraction = false ∧ token.isBinary = true)
    (options : Options) (previous : Option Kind) :
    (resolveFrom options previous (tokens ++ more)).countP isBinary =
      (resolveFrom options previous tokens).countP isBinary + more.length := by
  induction tokens generalizing previous with
  | nil =>
    rw [List.nil_append, resolveFrom_eq_self fun token htoken => (hmore token htoken).1,
      List.countP_eq_length.mpr fun token htoken => (hmore token htoken).2]
    exact (Nat.zero_add _).symm
  | cons token rest ih =>
    rw [List.cons_append, resolveFrom, resolveFrom, List.countP_cons, List.countP_cons, ih]
    omega

end Token

/-- Copies of a symbol are scanned as tokens of its operator. -/
theorem Scanner.tokens_replicate {c : Char} {op : Operator} (hop : Operator.written? c = some op)
    (count position : Nat) :
    (tokens ⟨List.replicate count c, position⟩).length = count ∧
      ∀ token ∈ tokens ⟨List.replicate count c, position⟩, token.kind = .operator op := by
  induction count generalizing position with
  | zero =>
    rw [List.replicate_zero, tokens_eq_nil (List.forall_mem_nil _)]
    exact ⟨rfl, List.forall_mem_nil _⟩
  | succ count ih =>
    obtain ⟨hlength, hkinds⟩ := ih (position + 1)
    have hreads := Reads.control (List.forall_mem_nil _) (Kind.ofControl?_of_written? hop)
      (List.replicate count c) position
    rw [List.replicate_succ, ← List.nil_append (c :: _), hreads.tokens_eq, List.length_cons]
    exact ⟨congrArg (· + 1) hlength, List.forall_mem_cons.mpr ⟨rfl, hkinds⟩⟩

variable {α : Type} {A : Arithmetic α} {options : Options} {source : Variables α}

/-- If the stages have a value, the characters other than blanks have one operand more than binary
operators. -/
theorem countP_filled {expression : String} {x : α}
    (hvalue : (evaluateStages A options source expression).result = .ok x) (position : Nat) :
    let tokens :=
      Scanner.tokens ⟨filled (Expression.trimmed options expression), position⟩
    1 + (resolve options tokens).countP isBinary = tokens.countP isOperand := by
  intro tokens
  have hcount := countP_of_result_evaluateStages hvalue
  have hsame : (Expression.tokens options expression).map unplaced = tokens.map unplaced :=
    Scanner.map_unplaced_tokens _ position
  have hbinary (token : Token) : token.unplaced.isBinary = token.isBinary := rfl
  have hoperand (token : Token) : token.unplaced.isOperand = token.isOperand := rfl
  rw [← countP_map_unplaced hbinary, ← countP_map_unplaced hoperand, ← resolve_map_unplaced,
    hsame, resolve_map_unplaced, countP_map_unplaced hbinary,
    countP_map_unplaced hoperand] at hcount
  exact hcount

/-- With copies of the symbol of an operator other than a minus sign behind them, there are as many
binary operators more. -/
theorem countP_filled_append {expression : String} {x : α} {c : Char}
    (hbinary : (CharRoles.ofChar c).binary = true) (hminus : c ≠ '-')
    (hvalue : (evaluateStages A options source expression).result = .ok x) (count : Nat) :
    let tokens := Scanner.tokens
      ⟨filled (Expression.trimmed options expression) ++ List.replicate count c, 0⟩
    1 + (resolve options tokens).countP isBinary = tokens.countP isOperand + count := by
  intro tokens
  obtain ⟨op, hop⟩ := Option.isSome_iff_exists.mp hbinary
  obtain ⟨-, harity, hsymbol⟩ := Operator.written?_eq_some_iff.mp hop
  have hcontrol : ∀ d ∈ (List.replicate count c).head?, isControl d = true := fun d hd => by
    rw [List.eq_of_mem_replicate (List.mem_of_mem_head? hd)]
    exact isControl_of_binary hbinary
  have hsplit := @Scanner.tokens_append ⟨filled (Expression.trimmed options expression), 0⟩ _
    (.inr hcontrol)
  obtain ⟨hlength, hkinds⟩ := Scanner.tokens_replicate hop count
    (0 + (filled (Expression.trimmed options expression)).length)
  generalize Scanner.tokens ⟨List.replicate count c, _⟩ = copies at hsplit hlength hkinds
  have hcopies : ∀ token ∈ copies, (token.isSubtraction = false ∧ token.isBinary = true) ∧
      token.isOperand = false := by
    intro token htoken
    have hother : op ≠ Operator.negation := by
      rintro rfl
      cases harity
    have hplain : op.symbol ≠ '-' := fun h => hminus (hsymbol ▸ h)
    simp [isSubtraction, isBinary, isOperand, hkinds token htoken, hother, hplain]
  have hnone : copies.countP isOperand = 0 := List.countP_eq_zero.mpr fun token htoken =>
    Bool.eq_false_iff.mp (hcopies token htoken).2
  have hcount := countP_filled hvalue 0
  have htokens : tokens = _ := hsplit
  rw [htokens, resolve, countP_isBinary_resolveFrom_append fun token htoken =>
    (hcopies token htoken).1, hlength, List.countP_append, hnone, ← resolve]
  simp only at hcount
  omega

/-- If a binary operator is the last character other than blanks, copies of it are dropped. -/
theorem Expression.exists_filled_eq_append {expression : String} {c : Char}
    (hdrop : options.dropDangling = true) (hbinary : (CharRoles.ofChar c).binary = true)
    (hlast : c ∈ (filled expression.toList).getLast?) :
    ∃ count, filled expression.toList =
      filled (trimmed options expression) ++ List.replicate (count + 1) c := by
  obtain ⟨count, htrim⟩ := exists_trim_eq_append hdrop hlast hbinary
  have hcopies : filled (List.replicate (count + 1) c) = List.replicate (count + 1) c :=
    filled_eq_self fun d hd => by
      rw [List.eq_of_mem_replicate hd]
      exact isBlank_eq_false_of_binary hbinary
  exact ⟨count, by rw [← filled_trim, htrim, filled_append, hcopies]⟩

/-- More than one copy of a character at the end of a text. -/
theorem pair_isSuffix_append_replicate (text : List Char) (c : Char) {count : Nat}
    (hcount : count ≠ 0) : [c, c] <:+ text ++ List.replicate (count + 1) c := by
  obtain ⟨count, rfl⟩ := Nat.exists_eq_succ_of_ne_zero hcount
  have htwo : [c, c] = List.replicate 2 c := rfl
  refine ⟨text ++ List.replicate count c, ?_⟩
  rw [htwo, List.append_assoc, List.replicate_append_replicate]

/-- Of two expressions with values that differ in blanks only, the same characters are evaluated,
unless minus signs dangle at the end. -/
theorem filled_trimmed_eq {first second : String} {x y : α}
    (hsame : filled first.toList = filled second.toList)
    (hdangling : options.dropDangling = true → ['-', '-'] <:+ filled first.toList →
      filled (Expression.trimmed options first) = filled (Expression.trimmed options second))
    (hfirst : (evaluateStages A options source first).result = .ok x)
    (hsecond : (evaluateStages A options source second).result = .ok y) :
    filled (Expression.trimmed options first) = filled (Expression.trimmed options second) := by
  by_cases hend : ∀ c ∈ (filled first.toList).getLast?, (CharRoles.ofChar c).binary = false
  · rw [Expression.trimmed_eq_trim options hend, Expression.trimmed_eq_trim options (hsame ▸ hend),
      filled_trim, filled_trim, hsame]
  obtain ⟨c, hlast, hbinary⟩ : ∃ c ∈ (filled first.toList).getLast?,
      (CharRoles.ofChar c).binary = true := by simpa using hend
  cases hdrop : options.dropDangling with
  | false => simp only [Expression.trimmed, hdrop, Bool.false_eq_true, if_false, filled_trim, hsame]
  | true =>
    obtain ⟨k, hk⟩ := Expression.exists_filled_eq_append hdrop hbinary hlast
    obtain ⟨m, hm⟩ := Expression.exists_filled_eq_append hdrop hbinary (hsame ▸ hlast)
    by_cases hminus : c = '-'
    · subst hminus
      by_cases hfew : k = 0 ∧ m = 0
      · obtain ⟨rfl, rfl⟩ := hfew
        exact List.append_cancel_right (hk.symm.trans (hsame.trans hm))
      · rcases not_and_or.mp hfew with hk0 | hm0
        · exact hdangling hdrop (hk ▸ pair_isSuffix_append_replicate _ '-' hk0)
        · exact hdangling hdrop (hsame ▸ hm ▸ pair_isSuffix_append_replicate _ '-' hm0)
    · -- Every copy that is kept would be one more operator for the same operands.
      have hone := countP_filled_append hbinary hminus hfirst (k + 1)
      have hother := countP_filled_append hbinary hminus hsecond (m + 1)
      rw [← hk, hsame, hm] at hone
      obtain rfl : k = m := by omega
      exact List.append_cancel_right (hk.symm.trans (hsame.trans hm))

variable {kind : NumberKind} {first second : String} {x y : kind.Value}

/-- Where the same characters are evaluated, the stages have the same value. -/
theorem result_evaluateStages_of_filled
    (hfilled : filled (Expression.trimmed options first) =
      filled (Expression.trimmed options second)) {source : Variables kind.Value}
    (hsecond : (evaluateStages kind.arithmetic options source second).result = .ok y) :
    (evaluateStages kind.arithmetic options source first).result = .ok y := by
  have hsame : (Expression.tokens options first).map unplaced =
      (Expression.tokens options second).map unplaced :=
    Scanner.map_unplaced_tokens_congr hfilled
  have hstages := mapError_result_evaluateStages_congr kind.arithmetic hsame source
  rw [hsecond] at hstages
  exact (mapError_eq_ok_iff _).mp hstages

/-- A value of an expression that differs from a literal in blanks only is that of the literal. -/
theorem eq_of_literal? (hsame : filled first.toList = filled second.toList)
    (hliteral : kind.arithmetic.literal? first = some x)
    (hsecond : evaluate kind options Variables.none second = .ok y) : y = x := by
  have hfilled := filled_eq_self (NumberKind.isBlank_eq_false_of_literal? hliteral)
  have hend := binary_getLast?_of_literal? hliteral
  rw [filled_trim] at hfilled
  cases hother : kind.arithmetic.literal? second with
  | some z =>
    have hplain := filled_eq_self (NumberKind.isBlank_eq_false_of_literal? hother)
    rw [filled_trim, ← hsame, hfilled] at hplain
    rw [kind.literal?_congr hplain, hother] at hliteral
    rw [evaluate_literal hother, Except.ok.injEq] at hsecond
    exact hsecond.symm.trans (Option.some.inj hliteral)
  | none =>
    have hevaluated : filled (Expression.trimmed options first) =
        filled (Expression.trimmed options second) := by
      rw [Expression.trimmed_eq_trim options hend,
        Expression.trimmed_eq_trim options (hsame ▸ hend), filled_trim, filled_trim, hsame]
    rw [evaluate_eq_stages hother] at hsecond
    exact (hasPlainSigns_of_result_evaluateStages hliteral
      (result_evaluateStages_of_filled hevaluated hsecond)).1

/-- Blanks do not change a value: two expressions with the same characters other than blanks that
have values without variables have the same value. The exception are operators that dangle at the
end and are dropped. Dropping stops at a blank, so that of two or more minus signs at the end the
two expressions may keep different numbers. -/
theorem evaluate_eq_of_filled_eq (hsame : filled first.toList = filled second.toList)
    (hdangling : options.dropDangling = true → ['-', '-'] <:+ filled first.toList →
      filled (Expression.trimmed options first) = filled (Expression.trimmed options second))
    (hfirst : evaluate kind options Variables.none first = .ok x)
    (hsecond : evaluate kind options Variables.none second = .ok y) : x = y := by
  cases hliteral : kind.arithmetic.literal? first with
  | some z =>
    have hx := eq_of_literal? rfl hliteral hfirst
    have hy := eq_of_literal? hsame hliteral hsecond
    rw [hx, hy]
  | none =>
    cases hother : kind.arithmetic.literal? second with
    | some z =>
      have hx := eq_of_literal? hsame.symm hother hfirst
      have hy := eq_of_literal? rfl hother hsecond
      rw [hx, hy]
    | none =>
      rw [evaluate_eq_stages hliteral] at hfirst
      rw [evaluate_eq_stages hother] at hsecond
      have hfilled := filled_trimmed_eq hsame hdangling hfirst hsecond
      have hvalue := result_evaluateStages_of_filled hfilled hsecond
      rw [hfirst] at hvalue
      exact Except.ok.inj hvalue

/-- A blank inside of a number does not end it. -/
theorem evaluate_eq_of_filled_eq_sum :
    ∃ x y, evaluate .int32 {} Variables.none "12 + 3-" = .ok x ∧
      evaluate .int32 {} Variables.none "1 2+3 -" = .ok y ∧ x = y := by
  have hfirst : evaluate .int32 {} Variables.none "12 + 3-" = .ok (15#32 : BitVec 32) := by
    decide +kernel
  have hsecond : evaluate .int32 {} Variables.none "1 2+3 -" = .ok (15#32 : BitVec 32) := by
    decide +kernel
  have hone : ¬['-', '-'] <:+ filled "12 + 3-".toList := by decide
  exact ⟨_, _, hfirst, hsecond,
    evaluate_eq_of_filled_eq (by decide) (fun _ hsuffix => absurd hsuffix hone) hfirst hsecond⟩

/-- Of `(2)--` both minus signs are dropped, of `(2)- -` only the last one, and the other one
negates, so that the two values differ. -/
theorem evaluate_danglingMinus :
    filled "(2)--".toList = filled "(2)- -".toList ∧
      evaluate .int32 {} Variables.none "(2)--" = .ok (2#32 : BitVec 32) ∧
      evaluate .int32 {} Variables.none "(2)- -" = .ok (-2#32 : BitVec 32) ∧
      (2#32 : BitVec 32) ≠ -2#32 := by
  decide +kernel

end Calculator
