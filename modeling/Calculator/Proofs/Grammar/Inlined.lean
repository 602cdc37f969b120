import Calculator.Proofs.Evaluation.Unplaced
import Calculator.Proofs.Grammar.Value
import Calculator.Proofs.Number.Notation

/-!
# Variables as written numbers

An operand that names a variable may be replaced by the number that the variable stands for, written
between parentheses. For integers the outcome stays the same, but for the places of failures: the
parentheses keep a minus sign away from its neighbours. The smallest integer is the exception,
because a minus sign in an expression negates, and there is no number to be negated.
-/

namespace Calculator

/-- The decimal digits of a natural number as a word. -/
def Word.ofNat (n : Nat) : Word where
  first := (Nat.toDigits 10 n).head Nat.toDigits_ne_nil
  rest := (Nat.toDigits 10 n).tail
  plain := by
    rw [List.cons_head_tail]
    intro c hc
    have hdigit := (Decimal.areDigits_toDigits n).2 c hc
    exact ⟨Decimal.isBlank_eq_false_of_isNumeric (Decimal.isNumeric_of_isDigit hdigit),
      (Decimal.plain_of_isDigit hdigit).1⟩

/-- The digits of a natural number are the characters of its word. -/
@[simp] theorem Word.chars_ofNat (n : Nat) : (Word.ofNat n).chars = Nat.toDigits 10 n :=
  List.cons_head_tail _

/-- What is written for an operand: the number between parentheses if it names a variable, and else
the operand itself. -/
def Word.written {α : Type} (A : Arithmetic α) (source : Variables α) (word : Word) : List Char :=
  match source word.text with
  | some x => '(' :: (A.text x).toList ++ [')']
  | none => word.chars

namespace Infix

variable {rank : Rank}

/-- The operands of an expression. -/
def words : {rank : Rank} → Infix false rank → List Word
  | _, operand word _ => [word]
  | _, group _ body _ => body.words
  | _, lift _ body => body.words
  | _, power base _ exponent => base.words ++ exponent.words
  | _, negation _ body => body.words
  | _, binary _ left _ _ _ right => left.words ++ right.words

/-- The characters of an expression with something else written for its operands. -/
def renderWith (operand : Word → List Char) : {rank : Rank} → Infix false rank → List Char
  | _, .operand word gap => operand word ++ gap.chars
  | _, group gap body after =>
    '(' :: gap.chars ++ body.renderWith operand ++ ')' :: after.chars
  | _, lift _ body => body.renderWith operand
  | _, power base gap exponent =>
    base.renderWith operand ++ '^' :: gap.chars ++ exponent.renderWith operand
  | _, negation gap body => '-' :: gap.chars ++ body.renderWith operand
  | _, binary _ left operation _ gap right =>
    left.renderWith operand ++ operation.operator.symbol :: gap.chars ++ right.renderWith operand

/-- The text of an expression behind leading blanks, with the numbers of its variables written for
them. -/
def writtenText {α : Type} (A : Arithmetic α) (source : Variables α) (leading : Blanks)
    (e : Infix false .sum) : String :=
  String.ofList (leading.chars ++ e.renderWith (Word.written A source))

/-- An integer as an expression: digits, with a minus sign in front if it is negative. -/
def ofInt : Int → Infix false .sum
  | .ofNat n => (operand (.ofNat n) .none).ofAtom.ofPower.ofUnary.ofProduct
  | .negSucc n => (negation .none (operand (.ofNat (n + 1)) .none).ofAtom).ofUnary.ofProduct

/-- An expression with the numbers of its operands between parentheses, for those that have one. -/
def inlined (number : Variables Int) : {rank : Rank} → Infix false rank → Infix false rank
  | _, operand word gap =>
    match number word.text with
    | some n => group .none (ofInt n) gap
    | none => operand word gap
  | _, group gap body after => group gap (body.inlined number) after
  | _, lift htight body => lift htight (body.inlined number)
  | _, power base gap exponent => power (base.inlined number) gap (exponent.inlined number)
  | _, negation gap body => negation gap (body.inlined number)
  | _, binary htight left operation hrank gap right =>
    binary htight (left.inlined number) operation hrank gap (right.inlined number)

/-- A negative integer is the negation of its digits. -/
theorem tree_ofInt_negSucc {α : Type} (n start : Nat) :
    (ofInt (.negSucc n)).tree (Variables.none : Variables α) start =
      .negation (.minus start) (.operand (Word.ofNat (n + 1)).text (behind start .none)) := rfl

/-- An integer is written as its text. -/
theorem render_ofInt (n : Int) : (ofInt n).render = (Decimal.writeInt n).toList := by
  cases n with
  | ofNat n =>
    rw [Decimal.writeInt, Nat.toList_repr]
    exact (List.append_nil _).trans (Word.chars_ofNat n)
  | negSucc n =>
    rw [Decimal.writeInt, String.toList_append, Nat.toList_repr]
    exact congrArg ('-' :: ·) ((List.append_nil _).trans (Word.chars_ofNat (n + 1)))

/-- Expressions are rendered with their operands. -/
theorem renderWith_chars (e : Infix false rank) : e.renderWith Word.chars = e.render := by
  induction e with
  | operand => rfl
  | group gap body after ih => simp only [renderWith, render, ih]
  | lift htight body ih => exact ih
  | power base gap exponent ihbase ihexponent =>
    simp only [renderWith, render, ihbase, ihexponent]
  | negation gap body ih => simp only [renderWith, render, ih]
  | binary htight left operation hrank gap right ihleft ihright =>
    simp only [renderWith, render, ihleft, ihright]

/-- What is written for an operand stands in the expression. -/
theorem mem_renderWith {operand : Word → List Char} {e : Infix false rank} {word : Word}
    (hword : word ∈ e.words) {c : Char} (hc : c ∈ operand word) : c ∈ e.renderWith operand := by
  induction e with
  | operand other gap =>
    obtain rfl := List.mem_singleton.mp hword
    exact List.mem_append_left _ hc
  | group gap body after ih => simp [renderWith, ih hword]
  | lift htight body ih => exact ih hword
  | power base gap exponent ihbase ihexponent =>
    rcases List.mem_append.mp hword with hword | hword
    · simp [renderWith, ihbase hword]
    · simp [renderWith, ihexponent hword]
  | negation gap body ih => simp [renderWith, ih hword]
  | binary htight left operation hrank gap right ihleft ihright =>
    rcases List.mem_append.mp hword with hword | hword
    · simp [renderWith, ihleft hword]
    · simp [renderWith, ihright hword]

/-- What is written for other words plays no part. -/
theorem renderWith_congr {first second : Word → List Char} {e : Infix false rank}
    (hsame : ∀ word ∈ e.words, first word = second word) :
    e.renderWith first = e.renderWith second := by
  induction e with
  | operand word gap => rw [renderWith, renderWith, hsame word List.mem_cons_self]
  | group gap body after ih => simp only [renderWith, ih hsame]
  | lift htight body ih => exact ih hsame
  | power base gap exponent ihbase ihexponent =>
    obtain ⟨hbase, hexponent⟩ := List.forall_mem_append.mp hsame
    simp only [renderWith, ihbase hbase, ihexponent hexponent]
  | negation gap body ih => simp only [renderWith, ih hsame]
  | binary htight left operation hrank gap right ihleft ihright =>
    obtain ⟨hleft, hright⟩ := List.forall_mem_append.mp hsame
    simp only [renderWith, ihleft hleft, ihright hright]

/-- Where no operand names a variable, nothing else is written. -/
theorem writtenText_eq_text {α : Type} (A : Arithmetic α) {source : Variables α}
    (leading : Blanks) {e : Infix false .sum}
    (hnone : ∀ word ∈ e.words, source word.text = none) :
    e.writtenText A source leading = e.text leading := by
  have hwritten : ∀ word ∈ e.words, Word.written A source word = word.chars :=
    fun word hword => by rw [Word.written, hnone word hword]
  rw [writtenText, text, renderWith_congr hwritten, renderWith_chars]

end Infix

open Infix

section Words

variable {w : Nat} (source : Variables (BitVec w)) {rank : Rank}

/-- The variables as integers without bounds. -/
def Variables.toInt : Variables Int :=
  fun name => (source name).map BitVec.toInt

/-- With its variables as numbers an expression is rendered with what is written for them. -/
theorem Infix.render_inlined (e : Infix false rank) :
    (e.inlined (Variables.toInt source)).render =
      e.renderWith (Word.written (Word.arithmetic w) source) := by
  induction e with
  | operand word gap =>
    simp only [inlined, renderWith, Variables.toInt, Word.written]
    cases source word.text with
    | none => rfl
    | some x =>
      have htext : (Word.arithmetic w).text x = Decimal.writeInt x.toInt := rfl
      simp [render, Blanks.none, render_ofInt, htext]
  | group gap body after ih => simp only [inlined, renderWith, render, ih]
  | lift htight body ih => exact ih
  | power base gap exponent ihbase ihexponent =>
    simp only [inlined, renderWith, render, ihbase, ihexponent]
  | negation gap body ih => simp only [inlined, renderWith, render, ih]
  | binary htight left operation hrank gap right ihleft ihright =>
    simp only [inlined, renderWith, render, ihleft, ihright]

/-- The digits of a natural number are a literal exactly if the number is in range. -/
theorem Word.literal?_ofNat (hw : 0 < w) {n : Nat} {x : BitVec w} :
    (Word.arithmetic w).literal? (Word.ofNat n).text = some x ↔ x.toInt = n := by
  have hread : Decimal.readInt? (Nat.toDigits 10 n) = some (n : Int) :=
    Decimal.readInt?_eq_some_iff.mpr (Decimal.writesInt_toDigits n)
  have htrim : Text.trim (Word.ofNat n).text.toList = Nat.toDigits 10 n := by
    have hplain : ∀ c ∈ (Word.ofNat n).chars, Text.isBlank c = false := fun c hc =>
      ((Word.ofNat n).plain c hc).1
    rw [Word.text, String.toList_ofList, Text.trim_eq_self hplain, Word.chars_ofNat]
  rw [literal?_eq_read?, plainNotation_of_readInt? (htrim ▸ hread), htrim, read?_eq_some_iff hw,
    ← Decimal.readInt?_eq_some_iff, hread, Option.some.injEq, eq_comm]

/-- A number other than the smallest one is the value of the expression that it is written as. -/
theorem Infix.eval_ofInt (hw : 0 < w) {x : BitVec w} (hx : x.toInt ≠ Word.minimum w)
    (start : Nat) :
    ((ofInt x.toInt).tree Variables.none start).eval (Word.arithmetic w) = .ok x := by
  cases hn : x.toInt with
  | ofNat n => exact OperatorTree.operandValue_eq_ok_iff.mpr ((Word.literal?_ofNat hw).mpr hn)
  | negSucc n =>
    have hfits : ¬x.negOverflow := by simpa [BitVec.negOverflow, Word.minimum] using hx
    have hopposite : (-x).toInt = (n + 1 : Nat) := by
      rw [BitVec.toInt_neg_of_not_negOverflow hfits, hn]
      rfl
    have hread : OperatorTree.operandValue (Word.arithmetic w) (Word.ofNat (n + 1)).text
        (behind start .none) = .ok (-x) :=
      OperatorTree.operandValue_eq_ok_iff.mpr ((Word.literal?_ofNat hw).mpr hopposite)
    have hnegate : (Word.arithmetic w).negate (-x) = .ok x := by
      rw [Word.negate_eq_ok, BitVec.neg_neg]
      rw [hopposite, Word.minimum]
      omega
    rw [tree_ofInt_negSucc, OperatorTree.eval, OperatorTree.eval, hread, ok_bind, hnegate]
    rfl

/-- The expression that the smallest number is written as has no value. -/
theorem Infix.eval_ofInt_minimum (hw : 0 < w) (start : Nat) :
    ∃ failure, ((ofInt (Word.minimum w)).tree Variables.none start).eval (Word.arithmetic w) =
      .error failure := by
  have hone : 1 ≤ Nat.pow 2 (w - 1) := Nat.one_le_two_pow
  obtain ⟨n, hn⟩ := Nat.exists_eq_add_of_le' hone
  have hminimum : Word.minimum w = .negSucc n := by
    rw [Word.minimum, hn]
    rfl
  have hnone : (Word.arithmetic w).literal? (Word.ofNat (n + 1)).text = none := by
    rw [Option.eq_none_iff_forall_ne_some]
    intro x hx
    have hvalue := (Word.literal?_ofNat hw).mp hx
    have hrange := (Word.range_toInt x).2
    rw [Word.maximum, hn] at hrange
    omega
  rw [hminimum, tree_ofInt_negSucc, OperatorTree.eval, OperatorTree.eval,
    OperatorTree.operandValue, hnone]
  exact ⟨_, rfl⟩

/-- A settled outcome does not depend on the place of the operator, but for the place of a
failure. -/
theorem OperatorToken.settle_unplaced {α : Type} {operation : Operation}
    {sign other : OperatorToken operation} (hop : sign.op = other.op) (outcome : Except Fault α) :
    (sign.settle outcome).mapError Failure.unplaced =
      (other.settle outcome).mapError Failure.unplaced := by
  simp only [settle, hop]
  rcases outcome with (_ | _) | x <;> rfl

section Trees

variable {α : Type} {A : Arithmetic α} {left right other another : OperatorTree α}

/-- Negations of trees with the same outcome have the same outcome, but for places. -/
theorem eval_negation_congr {sign sign' : OperatorToken .negate} (hop : sign.op = sign'.op)
    (hleft : (left.eval A).mapError Failure.unplaced = (other.eval A).mapError Failure.unplaced) :
    ((OperatorTree.negation sign left).eval A).mapError Failure.unplaced =
      ((OperatorTree.negation sign' other).eval A).mapError Failure.unplaced := by
  simp only [OperatorTree.eval, mapError_bind, hleft]
  exact congrArg _ (funext fun x => OperatorToken.settle_unplaced hop _)

/-- Binary operations on trees with the same outcomes have the same outcome, but for places. -/
theorem eval_binary_congr {operation : BinaryOperation}
    {sign sign' : OperatorToken (.binary operation)} (hop : sign.op = sign'.op)
    (hleft : (left.eval A).mapError Failure.unplaced = (other.eval A).mapError Failure.unplaced)
    (hright : (right.eval A).mapError Failure.unplaced =
      (another.eval A).mapError Failure.unplaced) :
    ((OperatorTree.binary operation sign left right).eval A).mapError Failure.unplaced =
      ((OperatorTree.binary operation sign' other another).eval A).mapError Failure.unplaced := by
  simp only [OperatorTree.eval, mapError_bind, hleft, hright]
  exact congrArg _ (funext fun x => congrArg _ (funext fun y =>
    OperatorToken.settle_unplaced hop _))

/-- A binary operation on a tree without a value has no value. -/
theorem exists_eval_binary_error {operation : BinaryOperation}
    (sign : OperatorToken (.binary operation))
    (herror : (∃ failure, left.eval A = .error failure) ∨
      ∃ failure, right.eval A = .error failure) :
    ∃ failure, (OperatorTree.binary operation sign left right).eval A = .error failure := by
  rw [OperatorTree.eval]
  rcases herror with ⟨failure, hleft⟩ | ⟨failure, hright⟩
  · exact ⟨failure, by rw [hleft, error_bind]⟩
  · cases left.eval A with
    | error found => exact ⟨found, rfl⟩
    | ok x => exact ⟨failure, by rw [ok_bind, hright, error_bind]⟩

end Trees

/-- With its variables as numbers, none of which is the smallest one, an expression has the same
outcome, but for the place of a failure. -/
theorem Infix.eval_inlined (hw : 0 < w) {e : Infix false rank}
    (hwords : ∀ word ∈ e.words, ∀ x ∈ source word.text, x.toInt ≠ Word.minimum w)
    (start place : Nat) :
    (((e.inlined (Variables.toInt source)).tree Variables.none start).eval
        (Word.arithmetic w)).mapError Failure.unplaced =
      ((e.tree source place).eval (Word.arithmetic w)).mapError Failure.unplaced := by
  induction e generalizing start place with
  | operand word gap =>
    simp only [inlined, Variables.toInt, tree, OperatorTree.ofWord]
    cases hx : source word.text with
    | none =>
      simp only [Option.map_none, tree, OperatorTree.ofWord, Variables.none, OperatorTree.eval,
        OperatorTree.operandValue]
      cases (Word.arithmetic w).literal? word.text <;> rfl
    | some x =>
      have hvalue := eval_ofInt hw (hwords word List.mem_cons_self x hx) (behind start .none)
      simp only [Option.map_some, tree, hvalue]
      rfl
  | group gap body after ih => exact ih hwords _ _
  | lift htight body ih => exact ih hwords _ _
  | power base gap exponent ihbase ihexponent =>
    obtain ⟨hbase, hexponent⟩ := List.forall_mem_append.mp hwords
    exact eval_binary_congr rfl (ihbase hbase _ _) (ihexponent hexponent _ _)
  | negation gap body ih => exact eval_negation_congr rfl (ih hwords _ _)
  | binary htight left operation hrank gap right ihleft ihright =>
    obtain ⟨hleft, hright⟩ := List.forall_mem_append.mp hwords
    exact eval_binary_congr rfl (ihleft hleft _ _) (ihright hright _ _)

/-- If one of its variables is the smallest number, an expression with numbers for its variables
has no value. -/
theorem Infix.eval_inlined_minimum (hw : 0 < w) {e : Infix false rank} {word : Word} {x : BitVec w}
    (hword : word ∈ e.words) (hx : source word.text = some x) (hminimum : x.toInt = Word.minimum w)
    (start : Nat) :
    ∃ failure, ((e.inlined (Variables.toInt source)).tree Variables.none start).eval
      (Word.arithmetic w) = .error failure := by
  induction e generalizing start with
  | operand other gap =>
    obtain rfl := List.mem_singleton.mp hword
    simp only [inlined, Variables.toInt, hx, Option.map_some, tree, hminimum]
    exact eval_ofInt_minimum hw _
  | group gap body after ih => exact ih hword _
  | lift htight body ih => exact ih hword _
  | power base gap exponent ihbase ihexponent =>
    refine exists_eval_binary_error _ ?_
    rcases List.mem_append.mp hword with hword | hword
    · exact .inl (ihbase hword _)
    · exact .inr (ihexponent hword _)
  | negation gap body ih =>
    obtain ⟨failure, hfailure⟩ := ih hword (behind start gap)
    exact ⟨failure, by rw [inlined, tree, OperatorTree.eval, hfailure, error_bind]⟩
  | binary htight left operation hrank gap right ihleft ihright =>
    refine exists_eval_binary_error _ ?_
    rcases List.mem_append.mp hword with hword | hword
    · exact .inl (ihleft hword _)
    · exact .inr (ihright hword _)

/-- The stages give the written text the value of the expression with numbers for its variables. -/
theorem Infix.result_evaluateStages_writtenText {options : Options}
    (hminus : options.subtractAfterClosing = true) (leading : Blanks) (e : Infix false .sum) :
    (evaluateStages (Word.arithmetic w) options Variables.none
        (e.writtenText (Word.arithmetic w) source leading)).result =
      ((e.inlined (Variables.toInt source)).tree Variables.none 0).eval (Word.arithmetic w) := by
  rw [writtenText, ← render_inlined]
  exact result_evaluateStages_eq_eval _ Variables.none leading _ (.inl hminus) (chainsMinus_plain _)

/-- If none of its variables is the smallest number, the stages give the written text the outcome of
the expression, but for the place of a failure. -/
theorem Infix.result_evaluateStages_writtenText_congr (hw : 0 < w) {options : Options}
    (hminus : options.subtractAfterClosing = true) (leading : Blanks) {e : Infix false .sum}
    (hwords : ∀ word ∈ e.words, ∀ x ∈ source word.text, x.toInt ≠ Word.minimum w) :
    (evaluateStages (Word.arithmetic w) options Variables.none
        (e.writtenText (Word.arithmetic w) source leading)).result.mapError Failure.unplaced =
      (evaluateStages (Word.arithmetic w) options source (e.text leading)).result.mapError
        Failure.unplaced := by
  rw [result_evaluateStages_writtenText source hminus,
    result_evaluateStages_eq_eval _ source leading e (.inl hminus) e.chainsMinus_plain]
  exact eval_inlined source hw hwords 0 0

/-- If one of its variables is the smallest number, the stages give the written text no value. -/
theorem Infix.result_evaluateStages_writtenText_minimum (hw : 0 < w) {options : Options}
    (hminus : options.subtractAfterClosing = true) (leading : Blanks) {e : Infix false .sum}
    {word : Word} {x : BitVec w} (hword : word ∈ e.words) (hx : source word.text = some x)
    (hminimum : x.toInt = Word.minimum w) :
    ∃ failure, (evaluateStages (Word.arithmetic w) options Variables.none
      (e.writtenText (Word.arithmetic w) source leading)).result = .error failure := by
  rw [result_evaluateStages_writtenText source hminus]
  exact eval_inlined_minimum source hw hword hx hminimum 0

end Words

/-- A text with an opening parenthesis is no literal. -/
theorem NumberKind.literal?_eq_none_of_opening {kind : NumberKind} {text : String}
    (hopening : '(' ∈ text.toList) : kind.arithmetic.literal? text = none := by
  rw [Option.eq_none_iff_forall_ne_some]
  intro x hliteral
  rcases eq_sign_of_literal? hliteral hopening (by decide) with heq | heq <;> cases heq

/-- Variables act like their written values. In an integer kind, and if a minus sign behind a
closing parenthesis subtracts, an expression that is no literal as a whole has the same value as the
text in which every operand that names a variable is replaced by the value of the variable between
parentheses, or both have the same failure but for its place, if none of these values is the
smallest number of the kind. If one of them is, the text has no value. -/
theorem Infix.evaluate_writtenText {kind : NumberKind} (hinteger : kind.isInteger = true)
    {options : Options} (hminus : options.subtractAfterClosing = true)
    (source : Variables kind.Value) (leading : Blanks) (e : Infix false .sum) :
    let written := e.writtenText kind.arithmetic source leading
    (kind.arithmetic.literal? (e.text leading) = none →
      (∀ word ∈ e.words, ∀ x ∈ source word.text, ¬kind.IsMinimum x) →
      (evaluate kind options Variables.none written).mapError Failure.unplaced =
        (evaluate kind options source (e.text leading)).mapError Failure.unplaced) ∧
    ∀ word ∈ e.words, ∀ x ∈ source word.text, kind.IsMinimum x →
      ∃ failure, evaluate kind options Variables.none written = .error failure := by
  intro written
  have hnamed {word : Word} {x : kind.Value} (hword : word ∈ e.words)
      (hx : source word.text = some x) : kind.arithmetic.literal? written = none := by
    have hopening : '(' ∈ e.renderWith (Word.written kind.arithmetic source) :=
      mem_renderWith hword (by rw [Word.written, hx]; exact List.mem_cons_self)
    exact NumberKind.literal?_eq_none_of_opening (by simp [written, writtenText, hopening])
  refine ⟨fun hliteral hwords => ?_, fun word hword x hx hminimum => ?_⟩
  · have hnone : kind.arithmetic.literal? written = none := by
      by_cases hany : ∃ word ∈ e.words, ∃ x, source word.text = some x
      · obtain ⟨word, hword, x, hx⟩ := hany
        exact hnamed hword hx
      · have hnone : ∀ word ∈ e.words, source word.text = none := fun word hword =>
          Option.eq_none_iff_forall_ne_some.mpr fun x hx => hany ⟨word, hword, x, hx⟩
        rw [show written = e.text leading from writtenText_eq_text _ leading hnone, hliteral]
    rw [evaluate_eq_stages hnone, evaluate_eq_stages hliteral]
    cases kind with
    | int32 | int64 =>
      exact result_evaluateStages_writtenText_congr source (by decide) hminus leading hwords
    | float32 | float64 => cases hinteger
  · rw [evaluate_eq_stages (hnamed hword hx)]
    cases kind with
    | int32 | int64 =>
      exact result_evaluateStages_writtenText_minimum source (by decide) hminus leading hword hx
        hminimum
    | float32 | float64 => cases hinteger

/-- With -5 for `x` the expression `2 - -x` has the value of the text `2 - -(-5)`. The smallest
number cannot be written in this way. -/
theorem Infix.evaluate_writtenText_twoMinusNegatedX :
    let options : Options := { subtractAfterClosing := true }
    evaluate .int32 options Variables.none "2 - -(-5)" = .ok (-3#32 : BitVec 32) ∧
      ∃ failure, evaluate .int32 options Variables.none "2 - -(-2147483648)" = .error failure := by
  intro options
  let five : Variables NumberKind.int32.Value := Variables.ofList [("x", (-5#32 : BitVec 32))]
  let smallest : Variables NumberKind.int32.Value :=
    Variables.ofList [("x", (-2147483648#32 : BitVec 32))]
  have hliteral : NumberKind.int32.arithmetic.literal? (twoMinusNegatedX.text .none) = none := by
    decide +kernel
  have hwords : ∀ word ∈ twoMinusNegatedX.words, ∀ x ∈ five word.text,
      ¬NumberKind.int32.IsMinimum x := by
    have htwo : five "2" = none := rfl
    have hx : five "x" = some (-5#32 : BitVec 32) := rfl
    have hminimum : BitVec.toInt (-5#32) ≠ Word.minimum 32 := by decide
    refine List.forall_mem_cons.mpr ⟨?_, List.forall_mem_singleton.mpr ?_⟩
    · intro x hfive
      cases htwo.symm.trans hfive
    · intro x hfive
      cases hx.symm.trans hfive
      exact hminimum
  have hvalue : evaluate .int32 options five (twoMinusNegatedX.text .none) =
      .ok (-3#32 : BitVec 32) := by decide +kernel
  constructor
  · have hsame := (@evaluate_writtenText .int32 rfl options rfl five .none twoMinusNegatedX).1
      hliteral hwords
    rw [hvalue] at hsame
    exact (mapError_eq_ok_iff _).mp hsame
  · exact (@evaluate_writtenText .int32 rfl options rfl smallest .none twoMinusNegatedX).2
      (.single 'x' (by decide)) (.tail _ (.head _)) (-2147483648#32 : BitVec 32) rfl rfl

end Calculator
