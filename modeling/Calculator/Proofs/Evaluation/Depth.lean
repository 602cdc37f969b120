import Calculator.Proofs.Evaluation.Blanks
import Calculator.Proofs.Evaluation.Parentheses
import Calculator.Proofs.Evaluation.Subtraction
import Calculator.Proofs.Postfix.Placed

/-!
# Values that are left

How many values a run leaves is known from the tokens: as many as there are operands more than
binary operators, in whatever order the conversion puts them. Every term leaves at least one value,
so none is left only of an empty postfix form, in which nothing but parentheses went.
-/

namespace Calculator

open Token

namespace Token

/-- Whatever becomes of a minus sign, it keeps its place in the postfix form. -/
theorem map_isKept_resolveFrom (options : Options) (previous : Option Kind)
    (tokens : List Token) :
    (resolveFrom options previous tokens).map isKept = tokens.map isKept := by
  induction tokens generalizing previous with
  | nil => rfl
  | cons token rest ih =>
    have hkept : (resolveAfter options previous token).isKept = token.isKept := by
      obtain ⟨kind, text, position⟩ := token
      cases kind with
      | operand | opening | closing => rfl
      | operator op =>
        unfold resolveAfter
        split <;> rfl
    rw [resolveFrom, List.map_cons, List.map_cons, ih, hkept]

/-- The tokens are parentheses alone whether their minus signs are resolved or not. -/
theorem forall_isKept_resolve_iff (options : Options) (tokens : List Token) :
    (∀ token ∈ resolve options tokens, token.isKept = false) ↔
      ∀ token ∈ tokens, token.isKept = false := by
  have hsame := congrArg (fun kept => ∀ keeps ∈ kept, keeps = false)
    (map_isKept_resolveFrom options none tokens)
  simpa [resolve] using hsame

/-- Parentheses alone have no minus sign to resolve. -/
theorem resolve_eq_self (options : Options) {tokens : List Token}
    (hnone : ∀ token ∈ tokens, token.isKept = false) : resolve options tokens = tokens := by
  refine resolveFrom_eq_self (fun token htoken => ?_) options none
  have hkept := hnone token htoken
  obtain ⟨kind, text, position⟩ := token
  cases kind <;> first | rfl | cases hkept

/-- Some opening parenthesis strays exactly if one does at some place. -/
theorem hasStrayOpening_iff {tokens : List Token} :
    HasStrayOpening tokens ↔ ∃ place, StraysAt tokens place := by
  constructor
  · rintro ⟨before, opening, after, rfl, hopening, hstray⟩
    refine ⟨before.length, opening, by simp, hopening, ?_⟩
    rwa [List.append_cons, List.drop_left' (by simp)]
  · rintro ⟨place, opening, hplace, hopening, hstray⟩
    obtain ⟨hlt, rfl⟩ := List.getElem?_eq_some_iff.mp hplace
    refine ⟨tokens.take place, tokens[place], tokens.drop (place + 1), ?_, hopening, hstray⟩
    rw [List.getElem_cons_drop, List.take_append_drop]

end Token

/-- The postfix form is empty exactly if there is neither an operand nor an operator and no opening
parenthesis strays. -/
theorem Postfix.form_eq_nil_iff {strict : Bool} {tokens form : List Token}
    (harrange : arrange strict [] tokens = .ok form) :
    form = [] ↔ (∀ token ∈ tokens, token.isKept = false) ∧ ¬HasStrayOpening tokens := by
  obtain ⟨placed, harranges, rfl⟩ := arrange_numbered harrange
  have hplaces := rearranges_of_arranges harranges
  have hempty : placed.map (Token.moved (positionAt tokens)) = [] ↔ placed.map position = [] := by
    rw [List.map_eq_nil_iff, List.map_eq_nil_iff]
  have hkept : (∀ token ∈ tokens, token.isKept = false) ↔
      ∀ i : Nat, ¬∃ token, tokens[i]? = some token ∧ token.isKept = true := by
    simp only [List.mem_iff_getElem?, forall_exists_index, not_exists, not_and, Bool.not_eq_true]
    exact forall_comm
  rw [hempty, List.eq_nil_iff_forall_not_mem, hkept, hasStrayOpening_iff, not_exists, ← forall_and]
  refine forall_congr' fun i => ?_
  rw [hplaces.mem_iff, mem_unclosed_iff, not_or]

namespace Stack

variable {α : Type} {A : Arithmetic α}

/-- A run leaves nothing only if there is nothing to read. -/
theorem run_eq_ok_nil_iff {terms : List (Term α)} : run A [] terms = .ok [] ↔ terms = [] := by
  constructor
  · intro hrun
    rcases List.eq_nil_or_concat terms with rfl | ⟨read, last, rfl⟩
    · rfl
    · rw [List.concat_eq_append, run_append, bind_eq_ok_iff] at hrun
      obtain ⟨reached, -, hlast⟩ := hrun
      rw [run_cons, bind_eq_ok_iff] at hlast
      obtain ⟨next, hstep, hnext⟩ := hlast
      obtain ⟨htaken, hlength⟩ := (reads_of_step hstep).length
      obtain rfl : next = [] := Except.ok.inj hnext
      rw [List.length_nil] at hlength
      omega
  · rintro rfl
    rfl

/-- No value is left of an empty stack only. -/
theorem result_eq_noValue_iff {stack : Stack α} : stack.result = .error .noValue ↔ stack = [] := by
  rcases stack with _ | ⟨top, _ | ⟨next, below⟩⟩ <;> simp [result]

/-- Too many values are at least two. -/
theorem result_eq_tooManyValues_iff {stack : Stack α} {count : Nat} :
    stack.result = .error (.tooManyValues count) ↔ stack.length = count ∧ 2 ≤ count := by
  rcases stack with _ | ⟨top, _ | ⟨next, below⟩⟩ <;> simp [result] <;> omega

end Stack

variable {kind : NumberKind} {options : Options} {source : Variables kind.Value}
  {expression : String} {failure : Failure}

/-- A failure without a position is found on the stack that a run leaves. -/
theorem evaluate_eq_error_iff (hliteral : kind.arithmetic.literal? expression = none)
    (hposition : failure.position? = none) :
    evaluate kind options source expression = .error failure ↔
      ∃ form stack, Postfix.arrange options.strict []
          (resolve options (Expression.tokens options expression)) = .ok form ∧
        Stack.run kind.arithmetic [] (form.map (Term.ofToken source)) = .ok stack ∧
        stack.result = .error failure := by
  rw [evaluate_eq_bind hliteral, Postfix.ofTokens, bind_eq_error_iff]
  constructor
  · rintro (hconvert | ⟨form, harrange, hterms⟩)
    · obtain ⟨token, -, hnames⟩ := Postfix.exists_parenthesis_of_arrange_error hconvert
      rcases hnames with ⟨-, rfl⟩ | ⟨-, rfl⟩ <;> cases hposition
    · rcases Stack.evaluateTerms_eq_error_iff.mp hterms with
        ⟨read, term, rest, -, hstop⟩ | ⟨stack, hrun, hresult⟩
      · obtain ⟨hnoValue, htooMany⟩ := hstop.ne_noValue
        cases failure with
        | noValue => exact absurd rfl hnoValue
        | tooManyValues count => exact absurd rfl (htooMany count)
        | unknownOperand | tooFewOperands | strayParenthesis | zeroDivisor | outOfRange =>
          cases hposition
      · exact ⟨form, stack, harrange, hrun, hresult⟩
  · rintro ⟨form, stack, harrange, hrun, hresult⟩
    exact .inr ⟨form, harrange, Stack.evaluateTerms_eq_error_iff.mpr (.inr ⟨stack, hrun, hresult⟩)⟩

/-- There is no value exactly if the postfix form is empty. -/
theorem evaluate_eq_noValue_iff (hliteral : kind.arithmetic.literal? expression = none) :
    evaluate kind options source expression = .error .noValue ↔
      Postfix.arrange options.strict []
        (resolve options (Expression.tokens options expression)) = .ok [] := by
  rw [evaluate_eq_error_iff hliteral rfl]
  simp only [Stack.result_eq_noValue_iff]
  constructor
  · rintro ⟨form, _, harrange, hrun, rfl⟩
    rw [Stack.run_eq_ok_nil_iff, List.map_eq_nil_iff] at hrun
    rwa [hrun] at harrange
  · intro harrange
    exact ⟨[], [], harrange, rfl, rfl⟩

/-- The conversion has an empty postfix form exactly if all tokens are parentheses, none of which is
an opening one without a partner or, under strictness, a closing one. -/
theorem Postfix.arrange_eq_ok_nil_iff {strict : Bool} {tokens : List Token} :
    arrange strict [] tokens = .ok [] ↔
      (∀ token ∈ tokens, token.isKept = false) ∧ ¬HasStrayOpening tokens ∧
        (strict = true → ¬HasStrayClosing tokens) := by
  constructor
  · intro harrange
    obtain ⟨hnone, hopening⟩ := (form_eq_nil_iff harrange).mp rfl
    refine ⟨hnone, hopening, ?_⟩
    rintro rfl
    exact (isBalanced_iff.mp (arranges_of_arrange harrange).isBalanced).1
  · rintro ⟨hnone, hopening, hclosing⟩
    obtain ⟨form, hform⟩ : ∃ form, arrange strict [] tokens = .ok form := by
      cases strict with
      | false => exact exists_arrange_tolerant [] tokens
      | true =>
        obtain ⟨form, hform⟩ :=
          exists_arrange_of_isBalanced (isBalanced_iff.mpr ⟨hclosing rfl, hopening⟩)
        exact ⟨form, hform true⟩
    rw [hform, (form_eq_nil_iff hform).mpr ⟨hnone, hopening⟩]

/-- The tokens of an expression that is not a literal tell how many values its evaluation leaves. If
it has a value, there is one operand more than there are binary operators; too many values are as
many as there are operands more than binary operators, and at least two. No value is left exactly
of parentheses alone that the conversion accepts, all opening ones with a partner. -/
theorem evaluate_depth (hliteral : kind.arithmetic.literal? expression = none) :
    let outcome := evaluate kind options source expression
    let tokens := Expression.tokens options expression
    let operands := tokens.countP isOperand
    let operators := (resolve options tokens).countP isBinary
    (∀ x, outcome = .ok x → operands = operators + 1) ∧
    (∀ count, outcome = .error (.tooManyValues count) →
      operands = operators + count ∧ 2 ≤ count) ∧
    (outcome = .error .noValue ↔ (∀ token ∈ tokens, token.isKept = false) ∧
      ¬HasStrayOpening tokens ∧ (options.strict = true → ¬HasStrayClosing tokens)) := by
  intro outcome tokens operands operators
  refine ⟨fun x hvalue => ?_, fun count hfailure => ?_, ?_⟩
  · rw [← Nat.add_comm 1]
    exact (countP_of_evaluate hliteral hvalue).symm
  · obtain ⟨form, stack, harrange, hrun, hresult⟩ :=
      (evaluate_eq_error_iff hliteral rfl).mp hfailure
    obtain ⟨rfl, htwo⟩ := Stack.result_eq_tooManyValues_iff.mp hresult
    have hlength := Postfix.length_run_form (isStandard_resolve options expression) harrange hrun
    have hoperands : (resolve options tokens).countP isOperand = operands := by
      rw [List.countP_eq_length_filter, resolve, filter_isOperand_resolveFrom,
        ← List.countP_eq_length_filter]
    refine ⟨?_, htwo⟩
    rw [← hoperands, ← hlength, Nat.add_comm]
  · rw [evaluate_eq_noValue_iff hliteral, Postfix.arrange_eq_ok_nil_iff,
      forall_isKept_resolve_iff]
    refine and_congr_right fun hkept => ?_
    rw [resolve_eq_self options hkept]

/-- Of `(2)(3)-(4)` three values are left, because the minus sign negates behind a parenthesis. -/
theorem evaluate_depth_threeGroups :
    NumberKind.int32.arithmetic.literal? "(2)(3)-(4)" = none ∧
      evaluate .int32 {} Variables.none "(2)(3)-(4)" = .error (.tooManyValues 3) ∧
      (Expression.tokens {} "(2)(3)-(4)").countP isOperand =
        (resolve {} (Expression.tokens {} "(2)(3)-(4)")).countP isBinary + 3 := by
  have hliteral : NumberKind.int32.arithmetic.literal? "(2)(3)-(4)" = none := by decide
  have hfailure : evaluate .int32 {} Variables.none "(2)(3)-(4)" = .error (.tooManyValues 3) := by
    decide +kernel
  exact ⟨hliteral, hfailure, ((evaluate_depth hliteral).2.1 3 hfailure).1⟩

end Calculator
