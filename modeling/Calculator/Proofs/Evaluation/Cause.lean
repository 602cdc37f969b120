import Calculator.Proofs.Machine.Failing
import Calculator.Proofs.Number.Faults
import Calculator.Proofs.Postfix.Order
import Calculator.Proofs.Postfix.Strictness
import Calculator.Proofs.Stages

/-!
# Causes of failures

A failure with a position points at the place in the expression that is to blame, and what it says
about this place is true: the parenthesis, the operator or the word stands there. The word that is
reported as unknown is the leftmost one, because the conversion to postfix form keeps the order of
operands and the machine reads them from left to right.
-/

namespace Calculator

open Token

/-- A word stands for a number: it names a variable or is a literal. -/
def Variables.Means {α : Type} (A : Arithmetic α) (source : Variables α) (word : String) : Prop :=
  (∃ x, source word = some x) ∨ ∃ x, A.literal? word = some x

/-- What a failure says is true of the text that was evaluated: at its position there is what it
reports, and this is a reason to fail. -/
def Failure.PointsAtCause (kind : NumberKind) (source : Variables kind.Value) (text : List Char) :
    Failure → Prop
  | .noValue | .tooManyValues _ => True
  | .unknownOperand word position =>
    WordAt text position word ∧ ¬source.Means kind.arithmetic word ∧
      ∀ earlier other, WordAt text earlier other → earlier < position →
        source.Means kind.arithmetic other
  | .tooFewOperands symbol position expected found =>
    text[position]? = some (Operator.mark symbol) ∧ found < expected ∧
      ∃ operation, Operation.ofSymbol? symbol = some operation ∧ operation.arity = expected
  | .strayParenthesis position found => text[position]? = some found
  | .zeroDivisor position =>
    (text[position]? = some '/' ∨ text[position]? = some '%') ∧ kind.isInteger = true
  | .outOfRange symbol position =>
    text[position]? = some (Operator.mark symbol) ∧ symbol ≠ '^' ∧ kind.isInteger = true

/-- A word begins within its text. -/
theorem WordAt.position_lt {text : List Char} {position : Nat} {word : String}
    (hword : WordAt text position word) : position < text.length := by
  obtain ⟨rfl, -, -, -, -, -, rfl, -⟩ := hword
  simp only [List.length_append, List.length_cons]
  omega

/-- A failure that points at its cause points into the text. -/
theorem Failure.PointsAtCause.position_lt {kind : NumberKind} {source : Variables kind.Value}
    {text : List Char} {failure : Failure} {position : Nat}
    (hpoints : failure.PointsAtCause kind source text)
    (hposition : failure.position? = some position) : position < text.length := by
  have hinside {c : Char} (hc : text[position]? = some c) : position < text.length :=
    (List.getElem?_eq_some_iff.mp hc).1
  cases failure with
  | noValue | tooManyValues => cases hposition
  | unknownOperand => cases hposition; exact hpoints.1.position_lt
  | tooFewOperands => cases hposition; exact hinside hpoints.1
  | strayParenthesis => cases hposition; exact hinside hpoints
  | zeroDivisor => cases hposition; exact hpoints.1.elim hinside hinside
  | outOfRange => cases hposition; exact hinside hpoints.1

/-- A term that is a token is the one that it was made of, which names no variable. -/
theorem Term.ofToken_eq_token {α : Type} {source : Variables α} {token item : Token}
    (hterm : Term.ofToken source token = .token item) :
    item = token ∧ Term.lookup? source token = none := by
  unfold Term.ofToken at hterm
  split at hterm
  · cases hterm
  · rename_i hnone
    cases hterm
    exact ⟨rfl, hnone⟩

/-- An operand whose term is read stands for a number. -/
theorem Stack.Reads.means {α : Type} {A : Arithmetic α} {source : Variables α} {word : String}
    {position : Nat} {stack next : Stack α}
    (hreads : Reads A stack (Term.ofToken source ⟨.operand, word, position⟩) next) :
    source.Means A word := by
  cases hsource : source word with
  | some x => exact .inl ⟨x, hsource⟩
  | none =>
    rw [Term.ofToken, Term.lookup?, hsource] at hreads
    cases hliteral : A.literal? word with
    | some x => exact .inr ⟨x, hliteral⟩
    | none => cases hreads with | operand _ hx => simp [OperatorTree.operandValue, hliteral] at hx

variable {kind : NumberKind} {options : Options} {source : Variables kind.Value}
  {expression : String} {failure : Failure}

/-- A failure of the conversion points at a parenthesis. -/
theorem pointsAtCause_of_ofTokens
    (hconvert : Postfix.ofTokens options
      (resolve options (Expression.tokens options expression)) = .error failure) :
    failure.PointsAtCause kind source (Expression.trimmed options expression) := by
  obtain ⟨token, htoken, hnames⟩ := Postfix.exists_parenthesis_of_arrange_error hconvert
  have hmarks := marks_resolve options expression token htoken
  rcases hnames with ⟨hkind, rfl⟩ | ⟨hkind, rfl⟩
  · simpa only [Marks, hkind, Failure.PointsAtCause] using hmarks
  · simpa only [Marks, hkind, Failure.PointsAtCause] using hmarks

/-- An operator that faults points at its symbol, which is that of an operation that may fault in
this way. -/
theorem pointsAtCause_of_fault {text : List Char} {operation : BinaryOperation}
    {sign : OperatorToken (.binary operation)} (hmem : sign.op ∈ Operator.table)
    (hmarks : text[sign.position]? = some (Operator.mark sign.op.symbol)) {x y : kind.Value}
    {fault : Fault} (hfault : kind.arithmetic.combine operation x y = .error fault) :
    (fault.at sign.op.symbol sign.position).PointsAtCause kind source text := by
  obtain ⟨hinteger, hpower, hdivides⟩ := NumberKind.fault_of_combine hfault
  rw [Operator.eq_operator_of_mem_table hmem sign.means] at hmarks ⊢
  cases fault with
  | zeroDivisor =>
    refine ⟨?_, hinteger⟩
    rcases hdivides rfl with rfl | rfl
    · exact .inl hmarks
    · exact .inr hmarks
  | outOfRange =>
    refine ⟨hmarks, ?_, hinteger⟩
    cases operation with
    | power => exact absurd rfl hpower
    | add | subtract | multiply | divide | modulo => decide

/-- A step that fails points at its token. Of an unknown word it has to be known that it is the
leftmost one. -/
theorem pointsAtCause_of_fails {text : List Char} {token : Token} {stack : Stack kind.Value}
    (hfails : Stack.Fails kind.arithmetic stack (Term.ofToken source token) failure)
    (hmarks : token.Marks text) (hstandard : token.IsStandard)
    (hleftmost : token.isOperand = true → ∀ earlier other, WordAt text earlier other →
      earlier < token.position → source.Means kind.arithmetic other) :
    failure.PointsAtCause kind source text := by
  generalize hterm : Term.ofToken source token = term at hfails
  cases hfails with
  | operand position _ hnone =>
    obtain ⟨rfl, hlookup⟩ := Term.ofToken_eq_token hterm
    refine ⟨hmarks, ?_, hleftmost rfl⟩
    rintro (⟨x, hx⟩ | ⟨x, hx⟩)
    · rw [Term.lookup?, hx] at hlookup
      cases hlookup
    · rw [hnone] at hx
      cases hx
  | opening | closing =>
    obtain ⟨rfl, -⟩ := Term.ofToken_eq_token hterm
    exact hmarks
  | @meaningless op _ _ _ hnone =>
    obtain ⟨rfl, -⟩ := Term.ofToken_eq_token hterm
    have hmeans : ∀ op ∈ Operator.table, Operation.ofSymbol? op.symbol ≠ none := by decide
    exact absurd hnone (hmeans op (hstandard op rfl))
  | @tooFew operation sign _ hfew =>
    obtain ⟨rfl, -⟩ := Term.ofToken_eq_token hterm
    exact ⟨hmarks, hfew, operation, sign.means, rfl⟩
  | @negation sign x fault below hfault =>
    obtain ⟨rfl, -⟩ := Term.ofToken_eq_token hterm
    obtain ⟨hinteger, rfl⟩ := NumberKind.fault_of_negate hfault
    refine ⟨hmarks, fun hsymbol => ?_, hinteger⟩
    have hmeans := sign.means
    rw [hsymbol] at hmeans
    cases hmeans
  | @binary operation sign x y fault below hfault =>
    obtain ⟨rfl, -⟩ := Term.ofToken_eq_token hterm
    exact pointsAtCause_of_fault (hstandard sign.op rfl) hmarks hfault

/-- A run over a postfix form that stops points at the token where it stops. -/
theorem pointsAtCause_of_stopsAt {form : List Token} {read rest : List (Term kind.Value)}
    {term : Term kind.Value}
    (hconvert : Postfix.ofTokens options
      (resolve options (Expression.tokens options expression)) = .ok form)
    (hsplit : form.map (Term.ofToken source) = read ++ term :: rest)
    (hstop : Stack.StopsAt kind.arithmetic read term failure) :
    failure.PointsAtCause kind source (Expression.trimmed options expression) := by
  obtain ⟨before, later, rfl, rfl, hlater⟩ := List.map_eq_append_iff.mp hsplit
  obtain ⟨token, after, rfl, rfl, -⟩ := List.map_eq_cons_iff.mp hlater
  obtain ⟨stack, hrun, hstep⟩ := hstop
  have harranges := Postfix.arranges_of_arrange hconvert
  have htoken : token ∈ resolve options (Expression.tokens options expression) :=
    (harranges.mem_or_mem token (by simp)).resolve_left (by simp)
  refine pointsAtCause_of_fails (Stack.fails_of_step hstep)
    (marks_resolve options expression token htoken)
    (isStandard_resolve options expression token htoken) ?_
  intro hoperand earlier other hother hlt
  have hbefore := Postfix.mem_of_position_lt harranges hoperand rfl
    (Scanner.mem_tokens_of_wordAt hother) hlt
  obtain ⟨_, _, hreads⟩ := Stack.reads_of_run hrun _ (List.mem_map_of_mem hbefore)
  exact hreads.means

/-- A failure of the stages, or of a literal, which cannot fail, points at its cause. -/
theorem pointsAtCause_of_evaluate
    (hfailure : evaluate kind options source expression = .error failure) :
    failure.PointsAtCause kind source (Expression.trimmed options expression) := by
  cases hliteral : kind.arithmetic.literal? expression with
  | some x =>
    rw [evaluate_literal hliteral] at hfailure
    cases hfailure
  | none =>
    rw [evaluate_eq_bind hliteral, bind_eq_error_iff] at hfailure
    rcases hfailure with hconvert | ⟨form, hconvert, hterms⟩
    · exact pointsAtCause_of_ofTokens hconvert
    · rcases Stack.evaluateTerms_eq_error_iff.mp hterms with
        ⟨read, term, rest, hsplit, hstop⟩ | ⟨stack, -, hresult⟩
      · exact pointsAtCause_of_stopsAt hconvert hsplit hstop
      · rcases stack with _ | ⟨x, _ | ⟨y, below⟩⟩ <;> cases hresult <;> trivial

/-- Every failure points at its cause, and into the text that was evaluated. -/
theorem evaluate_error_pointsAtCause
    (hfailure : evaluate kind options source expression = .error failure) :
    failure.PointsAtCause kind source (Expression.trimmed options expression) ∧
      ∀ position, failure.position? = some position →
        position < (Expression.trimmed options expression).length := by
  have hpoints := pointsAtCause_of_evaluate hfailure
  exact ⟨hpoints, fun position hposition => hpoints.position_lt hposition⟩

/-- Of the two unknown words of ` x * (-y + z)` the left one is reported, where it stands in the
trimmed text. -/
theorem evaluate_error_pointsAtCause_leftmost :
    evaluate .int32 {} (Variables.ofList [("x", (5#32 : BitVec 32))]) " x * (-y + z)" =
        .error (.unknownOperand "y" 6) ∧
      (Failure.unknownOperand "y" 6).PointsAtCause .int32
        (Variables.ofList [("x", (5#32 : BitVec 32))]) "x * (-y + z)".toList := by
  have hfailure : evaluate .int32 {} (Variables.ofList [("x", (5#32 : BitVec 32))])
      " x * (-y + z)" = .error (.unknownOperand "y" 6) := by decide +kernel
  have htrimmed : Expression.trimmed {} " x * (-y + z)" = "x * (-y + z)".toList := by
    decide +kernel
  exact ⟨hfailure, htrimmed ▸ (evaluate_error_pointsAtCause hfailure).1⟩

end Calculator
