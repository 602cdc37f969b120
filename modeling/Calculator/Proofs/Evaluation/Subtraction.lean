import Calculator.Proofs.Evaluation.Operands
import Calculator.Proofs.Number.Literal

/-!
# Minus signs behind closing parentheses

It is an option whether a minus sign that follows a closing parenthesis directly subtracts or
negates. The tokens under the two settings have the same operands, and each such minus sign is one
binary operator more under the one than under the other. A run leaves as many values as there are
operands more than binary operators, so an expression with such a minus sign has a value under at
most one setting. Without one, the settings do not differ.
-/

namespace Calculator

open Token

namespace Token

/-- Whether a token is a closing parenthesis. -/
def isClosing (token : Token) : Bool :=
  token.kind == .closing

/-- The number of minus signs that follow a closing parenthesis directly; `closed` says whether one
stands in front of the tokens. -/
def minusBehindClosing (closed : Bool) : List Token → Nat
  | [] => 0
  | token :: rest =>
    (closed && token.isSubtraction).toNat + minusBehindClosing token.isClosing rest

/-- A minus sign somewhere behind a closing parenthesis is counted. -/
theorem minusBehindClosing_pos {before after : List Token} {closing minus : Token}
    (hclosing : closing.isClosing = true) (hminus : minus.isSubtraction = true) (closed : Bool) :
    0 < minusBehindClosing closed (before ++ closing :: minus :: after) := by
  induction before generalizing closed with
  | nil =>
    simp only [List.nil_append, minusBehindClosing, hclosing, hminus, Bool.and_true,
      Bool.toNat_true]
    omega
  | cons token before ih =>
    have hlater := ih token.isClosing
    rw [List.cons_append, minusBehindClosing]
    omega

/-- Without closing parentheses nothing is counted. -/
theorem minusBehindClosing_eq_zero {tokens : List Token}
    (hnone : ∀ token ∈ tokens, token.kind ≠ .closing) : minusBehindClosing false tokens = 0 := by
  induction tokens with
  | nil => rfl
  | cons token rest ih =>
    obtain ⟨htoken, hrest⟩ := List.forall_mem_cons.mp hnone
    have hopen : token.isClosing = false := by simpa [isClosing] using htoken
    rw [minusBehindClosing, hopen, ih hrest]
    rfl

/-- Whatever becomes of a minus sign, closing parentheses stay what they are. -/
theorem beq_closing_resolveAfter (options : Options) (previous : Option Kind) (token : Token) :
    (some (resolveAfter options previous token).kind == some .closing) = token.isClosing := by
  obtain ⟨kind, text, position⟩ := token
  cases kind with
  | operand | opening | closing => rfl
  | operator op =>
    unfold resolveAfter
    split <;> rfl

/-- Behind any operator a minus sign negates. -/
theorem resolveFrom_operator (options : Options) (op other : Operator) (tokens : List Token) :
    resolveFrom options (some (.operator op)) tokens =
      resolveFrom options (some (.operator other)) tokens := by
  cases tokens <;> rfl

/-- A minus sign that is not yet resolved is a binary operator. -/
theorem isBinary_of_isSubtraction {token : Token} (hminus : token.isSubtraction = true) :
    ∃ op, token.kind = .operator op ∧ token.isBinary = true := by
  obtain ⟨kind, text, position⟩ := token
  cases kind with
  | operand | opening | closing => cases hminus
  | operator op =>
    refine ⟨op, rfl, ?_⟩
    have hsymbol : op.symbol = '-' := by simpa [isSubtraction] using hminus
    have hother : op ≠ Operator.negation := by
      rintro rfl
      exact absurd hsymbol (by decide)
    simpa [isBinary] using hother

section Settings

variable {on off : Options} (hon : on.subtractAfterClosing = true)
  (hoff : off.subtractAfterClosing = false)
include hon hoff

/-- The settings differ in a token only if it is a minus sign behind a closing parenthesis. -/
theorem resolveAfter_cases (previous : Option Kind) (token : Token) :
    ((previous == some .closing && token.isSubtraction) = true ∧
      resolveAfter on previous token = token ∧
      resolveAfter off previous token = { token with kind := .operator Operator.negation }) ∨
    ((previous == some .closing && token.isSubtraction) = false ∧
      resolveAfter on previous token = resolveAfter off previous token) := by
  rcases previous with _ | _ | _ | _ | op
  · exact .inr ⟨rfl, rfl⟩
  · exact .inr ⟨rfl, rfl⟩
  · exact .inr ⟨rfl, rfl⟩
  · cases hminus : token.isSubtraction with
    | false => exact .inr ⟨rfl, by simp [resolveAfter, hminus]⟩
    | true =>
      refine .inl ⟨rfl, ?_, ?_⟩
      · simp [resolveAfter, negatesAfter, hon]
      · simp [resolveAfter, negatesAfter, hoff, hminus]
  · exact .inr ⟨rfl, rfl⟩

/-- Each minus sign behind a closing parenthesis is one binary operator more where it subtracts. -/
theorem countP_isBinary_resolveFrom (previous : Option Kind) (tokens : List Token) :
    (resolveFrom on previous tokens).countP isBinary =
      (resolveFrom off previous tokens).countP isBinary +
        minusBehindClosing (previous == some .closing) tokens := by
  induction tokens generalizing previous with
  | nil => rfl
  | cons token rest ih =>
    have hrest := ih (some (resolveAfter on previous token).kind)
    rw [beq_closing_resolveAfter] at hrest
    simp only [resolveFrom, minusBehindClosing, List.countP_cons]
    rcases resolveAfter_cases hon hoff previous token with
      ⟨hbehind, hkept, hnegated⟩ | ⟨hother, hsame⟩
    · rw [Bool.and_eq_true] at hbehind
      obtain ⟨op, hkind, hbinary⟩ := isBinary_of_isSubtraction hbehind.2
      have hnegation : isBinary { token with kind := .operator Operator.negation } = false := rfl
      -- Behind the token both settings go on alike, because both leave an operator.
      rw [hkept, hkind, resolveFrom_operator off op Operator.negation] at hrest
      rw [hkept, hnegated, hkind, hrest, hbinary, hnegation, hbehind.1, hbehind.2]
      simp only [if_true, Bool.false_eq_true, if_false, Bool.and_true, Bool.toNat_true]
      omega
    · rw [hsame] at hrest ⊢
      rw [hrest, hother, Bool.toNat_false]
      omega

/-- Without a minus sign behind a closing parenthesis the settings do not differ. -/
theorem resolveFrom_eq_of_none {previous : Option Kind} {tokens : List Token}
    (hnone : minusBehindClosing (previous == some .closing) tokens = 0) :
    resolveFrom on previous tokens = resolveFrom off previous tokens := by
  induction tokens generalizing previous with
  | nil => rfl
  | cons token rest ih =>
    rw [minusBehindClosing] at hnone
    rcases resolveAfter_cases hon hoff previous token with ⟨hbehind, -⟩ | ⟨-, hsame⟩
    · rw [hbehind, Bool.toNat_true] at hnone
      omega
    · have hrest : minusBehindClosing
          (some (resolveAfter on previous token).kind == some .closing) rest = 0 := by
        rw [beq_closing_resolveAfter]
        omega
      rw [resolveFrom, resolveFrom, ih hrest, hsame]

end Settings

end Token

variable {kind : NumberKind} {options : Options} {source : Variables kind.Value}
  {expression : String} {x y : kind.Value}

/-- An expression with a value that is not a literal has one operand more than binary operators. -/
theorem countP_of_evaluate (hliteral : kind.arithmetic.literal? expression = none)
    (hvalue : evaluate kind options source expression = .ok x) :
    1 + (resolve options (Expression.tokens options expression)).countP isBinary =
      (Expression.tokens options expression).countP isOperand := by
  rw [evaluate_eq_stages hliteral] at hvalue
  exact countP_of_result_evaluateStages hvalue

/-- An expression with values under both settings has no minus sign behind a closing
parenthesis. -/
theorem minusBehindClosing_of_evaluate
    (hoff : evaluate kind { options with subtractAfterClosing := false } source expression = .ok x)
    (hon : evaluate kind { options with subtractAfterClosing := true } source expression = .ok y) :
    minusBehindClosing false (Expression.tokens options expression) = 0 := by
  cases hliteral : kind.arithmetic.literal? expression with
  | some z =>
    refine minusBehindClosing_eq_zero fun token htoken => ?_
    exact (NumberKind.kind_ne_of_literal? hliteral (marks_tokens options expression token htoken)).2
  | none =>
    have htokens (subtractAfterClosing : Bool) :
        Expression.tokens { options with subtractAfterClosing } expression =
          Expression.tokens options expression := rfl
    have hfewer := countP_of_evaluate hliteral hoff
    have hmore := countP_of_evaluate hliteral hon
    have hcount := @countP_isBinary_resolveFrom { options with subtractAfterClosing := true }
      { options with subtractAfterClosing := false } rfl rfl none
      (Expression.tokens options expression)
    have hstart : ((none : Option Kind) == some .closing) = false := rfl
    simp only [htokens, resolve] at hfewer hmore
    rw [hstart] at hcount
    omega

/-- Without a minus sign behind a closing parenthesis both settings give the same outcome. -/
theorem evaluate_eq_of_minusBehindClosing
    (hnone : minusBehindClosing false (Expression.tokens options expression) = 0) :
    evaluate kind { options with subtractAfterClosing := true } source expression =
      evaluate kind { options with subtractAfterClosing := false } source expression := by
  cases hliteral : kind.arithmetic.literal? expression with
  | some z => rw [evaluate_literal hliteral, evaluate_literal hliteral]
  | none =>
    have hsame := @resolveFrom_eq_of_none { options with subtractAfterClosing := true }
      { options with subtractAfterClosing := false } rfl rfl none _ hnone
    simp only [evaluate_eq_bind hliteral, Postfix.ofTokens, resolve]
    exact congrArg (fun tokens => Postfix.arrange options.strict [] tokens >>= _) hsame

/-- Switching the meaning of a minus sign behind a closing parenthesis never turns one value into
another: values under both settings are the same, and an expression in which such a minus sign
occurs has a value under one of them at most. -/
theorem evaluate_subtractAfterClosing (kind : NumberKind) (options : Options)
    (source : Variables kind.Value) (expression : String) :
    let evaluateWith (subtractAfterClosing : Bool) :=
      evaluate kind { options with subtractAfterClosing } source expression
    (∀ x y, evaluateWith false = .ok x → evaluateWith true = .ok y → x = y) ∧
    ∀ before closing minus after,
      Expression.tokens options expression = before ++ closing :: minus :: after →
      closing.kind = .closing → minus.isSubtraction = true →
      ∀ x y, evaluateWith false = .ok x → evaluateWith true ≠ .ok y := by
  intro evaluateWith
  constructor
  · intro x y hoff hon
    have hsame : evaluateWith true = evaluateWith false :=
      evaluate_eq_of_minusBehindClosing (minusBehindClosing_of_evaluate hoff hon)
    rw [hoff, hon] at hsame
    exact (Except.ok.inj hsame).symm
  · intro before closing minus after hsplit hkind hminus x y hoff hon
    have hclosing : closing.isClosing = true := by simp [isClosing, hkind]
    have hpos := @minusBehindClosing_pos before after closing minus hclosing hminus false
    rw [← hsplit, minusBehindClosing_of_evaluate hoff hon] at hpos
    exact absurd hpos (Nat.lt_irrefl 0)

/-- Where the minus sign negates, `(2)-3` leaves two values. -/
example : evaluate .int32 {} Variables.none "(2)-3" = .error (.tooManyValues 2) ∧
    evaluate .int32 { subtractAfterClosing := true } Variables.none "(2)-3" =
      .ok (-1#32 : BitVec 32) := by
  decide +kernel

end Calculator
