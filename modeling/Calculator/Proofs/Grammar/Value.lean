import Calculator.Proofs.Grammar.Arranged
import Calculator.Proofs.Grammar.Resolved
import Calculator.Proofs.Grammar.Scanned
import Calculator.Proofs.Stages

/-!
# Values of infix expressions

The evaluation of the text of an expression runs the stack machine on the postfix form that the
conversion makes of it. As long as no minus sign stands directly behind `^` or another minus sign,
this is the postorder of the operator tree. In the plain grammar that is always so.
-/

namespace Calculator

namespace Term

variable {α : Type}

/-- A binary operation stays the same operation when variables get their values. -/
@[simp] theorem ofToken_operation (source : Variables α) (operation : BinaryOperation)
    (position : Nat) :
    ofToken source (operation.token position) =
      (OperatorToken.ofOperation operation position).term := rfl

/-- A minus sign stays a minus sign when variables get their values. -/
@[simp] theorem ofToken_minus (source : Variables α) (position : Nat) :
    ofToken source (Token.minus Operator.negation position) =
      (OperatorToken.minus position).term := rfl

end Term

/-- An operand stays an operand, or it becomes the value of the variable that it names. -/
theorem OperatorTree.postorder_ofWord {α : Type} (source : Variables α) (word : Word)
    (position : Nat) :
    (ofWord source word position).postorder =
      [Term.ofToken source ⟨.operand, word.text, position⟩] := by
  cases hlookup : source word.text <;>
    simp [ofWord, Term.ofToken, Term.lookup?, hlookup, postorder]

namespace Infix

variable {α : Type} {chained : Bool} {rank : Rank}

/-- Whether an expression begins with a minus sign. -/
def startsWithMinus : {rank : Rank} → Infix chained rank → Bool
  | _, operand _ _ => false
  | _, group _ _ _ => false
  | _, lift _ body => body.startsWithMinus
  | _, power base _ _ => base.startsWithMinus
  | _, negation _ _ => true
  | _, binary _ left _ _ _ _ => left.startsWithMinus

/-- Whether a minus sign stands directly behind `^` or behind another minus sign. -/
def chainsMinus : {rank : Rank} → Infix chained rank → Bool
  | _, operand _ _ => false
  | _, group _ body _ => body.chainsMinus
  | _, lift _ body => body.chainsMinus
  | _, power base _ exponent =>
    base.chainsMinus || exponent.startsWithMinus || exponent.chainsMinus
  | _, negation _ body => body.startsWithMinus || body.chainsMinus
  | _, binary _ left _ _ _ right => left.chainsMinus || right.chainsMinus

/-- An atom does not begin with a minus sign. -/
theorem startsWithMinus_atom (e : Infix chained .atom) : e.startsWithMinus = false := by
  cases e with
  | operand => rfl
  | group => rfl
  | lift htight => cases htight
  | binary htight => cases htight

/-- A power does not begin with a minus sign. -/
theorem startsWithMinus_power (e : Infix chained .power) : e.startsWithMinus = false := by
  cases e with
  | lift htight body =>
    cases htight
    exact body.startsWithMinus_atom
  | power base => exact base.startsWithMinus_atom
  | binary htight left operation hrank => cases operation <;> cases hrank

/-- The plain grammar has no minus sign directly behind `^` or another minus sign. -/
theorem chainsMinus_plain (e : Infix false rank) : e.chainsMinus = false := by
  induction e with
  | operand => rfl
  | group gap body after ih => exact ih
  | lift htight body ih => exact ih
  | power base gap exponent ihbase ihexponent =>
    have hexponent : exponent.startsWithMinus = false := startsWithMinus_power exponent
    simp [chainsMinus, ihbase, ihexponent, hexponent]
  | negation gap body ih =>
    have hbody : body.startsWithMinus = false := startsWithMinus_power body
    simp [chainsMinus, ih, hbody]
  | binary htight left operation hrank gap right ihleft ihright =>
    simp [chainsMinus, ihleft, ihright]

/-- The conversion gives the postorder of the tree, and behind it the chain that was pending, if
no minus sign releases operators before their operands. -/
theorem map_arrangement (source : Variables α) (e : Infix chained rank) (chain : List Token)
    (hrank : rank.isChain = true ∨ chain = []) (hchains : e.chainsMinus = false)
    (hstart : chain = [] ∨ e.startsWithMinus = false) (start : Nat) :
    (e.arrangement chain start).map (Term.ofToken source) =
      (e.tree source start).postorder ++ chain.map (Term.ofToken source) := by
  induction e generalizing chain start with
  | operand word gap =>
    rw [tree, OperatorTree.postorder_ofWord]
    rfl
  | group gap body after ih =>
    have hbody := ih [] (.inr rfl) hchains (.inl rfl) (behind start gap)
    simp [tree, hbody]
  | lift htight body ih =>
    exact ih chain (hrank.imp_left (Rank.isChain_of_tighter? htight)) hchains hstart start
  | power base gap exponent ihbase ihexponent =>
    simp only [chainsMinus, Bool.or_eq_false_iff] at hchains
    obtain ⟨⟨hbase, hminus⟩, hexponent⟩ := hchains
    have hfirst := ihbase [] (.inl rfl) hbase (.inl rfl) start
    have hsecond := ihexponent (BinaryOperation.power.token (start + base.width) :: chain)
      (.inl Rank.isChain_signed) hexponent (.inr hminus) (behind (start + base.width) gap)
    simp [tree, OperatorTree.postorder, hfirst, hsecond]
  | negation gap body ih =>
    simp only [chainsMinus, Bool.or_eq_false_iff] at hchains
    obtain ⟨hminus, hbody⟩ := hchains
    obtain rfl : chain = [] := hstart.resolve_right (by simp [startsWithMinus])
    have hnext := ih [Token.minus Operator.negation start] (.inl Rank.isChain_signed) hbody
      (.inr hminus) (behind start gap)
    simp [tree, OperatorTree.postorder, hnext]
  | binary htight left operation hoperation gap right ihleft ihright =>
    simp only [chainsMinus, Bool.or_eq_false_iff] at hchains
    obtain rfl := BinaryOperation.eq_nil_of_rank? hoperation hrank
    have hleft := ihleft [] (.inr rfl) hchains.1 (.inl rfl) start
    have hright := ihright [] (.inr rfl) hchains.2 (.inl rfl) (behind (start + left.width) gap)
    simp [tree, OperatorTree.postorder, hleft, hright]

/-- An expression has a token. -/
theorem isEmpty_tokens (sign : Operator) (e : Infix chained rank) (start : Nat) :
    (e.tokens sign start).isEmpty = false := by
  induction e generalizing start with
  | operand => rfl
  | group => rfl
  | lift htight body ih => exact ih start
  | power => simp [tokens]
  | negation => rfl
  | binary => simp [tokens]

/-- The stages bring the text of an expression into postfix form and evaluate that. -/
theorem result_evaluateStages_text (A : Arithmetic α) {options : Options} (source : Variables α)
    (leading : Blanks) (e : Infix chained .sum)
    (hminus : options.subtractAfterClosing = true ∨ e.subtractsBehindGroup = false) :
    (evaluateStages A options source (e.text leading)).result =
      evaluateTerms A ((e.arrangement [] 0).map (Term.ofToken source)) := by
  have hnone : ∀ top ∈ ([] : List Token), top.IsLink := List.forall_mem_nil _
  have hyields : Token.Yields Rank.sum.precedence [] := nofun
  have hsome : (e.tokens Operator.negation 0).isEmpty = false := e.isEmpty_tokens _ 0
  have harrange : Postfix.ofTokens options (e.tokens Operator.negation 0) =
      .ok (e.arrangement [] 0) := by
    have hrun := e.arrange_tokens options.strict hnone (.inr rfl) hyields 0 []
    simp only [List.append_nil] at hrun
    rw [Postfix.ofTokens, hrun, Postfix.arrange_nil,
      Postfix.release_operators (e.isOpening_pending 0)]
    rfl
  rw [result_evaluateStages, Postfix.result_ofExpression, e.tokens_text, e.resolve_tokens hminus,
    hsome, harrange]
  rfl

/-- Without chained minus signs the stages give the value of the tree. -/
theorem result_evaluateStages_eq_eval (A : Arithmetic α) {options : Options}
    (source : Variables α) (leading : Blanks) (e : Infix chained .sum)
    (hminus : options.subtractAfterClosing = true ∨ e.subtractsBehindGroup = false)
    (hchains : e.chainsMinus = false) :
    (evaluateStages A options source (e.text leading)).result = (e.tree source 0).eval A := by
  have hform := e.map_arrangement source [] (.inr rfl) hchains (.inl rfl) 0
  rw [List.map_nil, List.append_nil] at hform
  rw [result_evaluateStages_text A source leading e hminus, hform,
    OperatorTree.evaluateTerms_postorder]

/-- Unless the text as a whole is a literal, the value of a plain expression is the value of its
tree, and so is its failure. -/
theorem evaluate_text {kind : NumberKind} {options : Options} (source : Variables kind.Value)
    (leading : Blanks) (e : Infix false .sum)
    (hminus : options.subtractAfterClosing = true ∨ e.subtractsBehindGroup = false)
    (hliteral : kind.arithmetic.literal? (e.text leading) = none) :
    evaluate kind options source (e.text leading) = (e.tree source 0).eval kind.arithmetic := by
  rw [evaluate_eq_stages hliteral,
    result_evaluateStages_eq_eval _ source leading e hminus e.chainsMinus_plain]

/-- The expression `2 - -x`. -/
def twoMinusNegatedX : Infix false .sum :=
  let gap : Blanks := ⟨[' '], List.forall_mem_singleton.mpr rfl⟩
  let two : Infix false .atom := operand (.single '2' (by decide)) gap
  let x : Infix false .atom := operand (.single 'x' (by decide)) .none
  two.ofAtom.ofPower.ofUnary.ofProduct.minus gap (negation .none x.ofAtom).ofUnary

/-- With 5 for `x` this is 7. -/
theorem evaluate_text_twoMinusNegatedX :
    let source : Variables NumberKind.int32.Value := Variables.ofList [("x", (5#32 : BitVec 32))]
    twoMinusNegatedX.subtractsBehindGroup = false ∧
      NumberKind.int32.arithmetic.literal? "2 - -x" = none ∧
      evaluate .int32 {} source "2 - -x" = .ok (7#32 : BitVec 32) := by
  have hliteral : NumberKind.int32.arithmetic.literal? "2 - -x" = none := by decide +kernel
  refine ⟨rfl, hliteral, ?_⟩
  exact (@evaluate_text .int32 {} _ .none twoMinusNegatedX (.inr rfl) hliteral).trans
    rfl

end Infix

end Calculator
