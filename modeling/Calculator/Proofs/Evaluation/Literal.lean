import Calculator.Proofs.Evaluation.Operands
import Calculator.Proofs.Grammar.Value
import Calculator.Proofs.Number.Opposite
import Calculator.Proofs.Postfix.Strictness

/-!
# Literals in the stages

A text that is a literal is evaluated without its tokens. This module says what the stages would
make of it: nothing but the same number, and that whenever the signs in it are no more than a minus
sign in front. Any other sign is split off as an operator; the exception is the smallest integer of
a kind, which cannot be read without its sign.
-/

namespace Calculator

open Decimal Token

variable {kind : NumberKind} {options : Options} {expression : String} {x y : kind.Value}

/-- The signs in a literal are those that the stages follow: a minus sign in front at most, and not
in front of the smallest integer of the kind. -/
def NumberKind.HasPlainSigns (kind : NumberKind) (text : List Char) (x : kind.Value) : Prop :=
  '+' ∉ text ∧ '-' ∉ text.tail ∧ (text.head? = some '-' → ¬kind.IsMinimum x)

/-- Texts that differ in the blanks around them are the same literal. -/
theorem NumberKind.literal?_congr (kind : NumberKind) {first second : String}
    (hsame : Text.trim first.toList = Text.trim second.toList) :
    kind.arithmetic.literal? first = kind.arithmetic.literal? second := by
  simp only [literal?_eq, plainNotation, hsame]

/-- No operator dangles at the end of a literal. -/
theorem binary_getLast?_of_literal? (hliteral : kind.arithmetic.literal? expression = some x) :
    ∀ c ∈ (Text.filled expression.toList).getLast?, (CharRoles.ofChar c).binary = false := by
  intro c hc
  obtain ⟨-, last, hlast, hcontrol, -⟩ := NumberKind.isSpelled_of_literal? hliteral
  rw [Text.getLast?_filled] at hc
  obtain rfl := Option.mem_unique hlast hc
  exact binary_eq_false_of_isControl hcontrol

/-- Of a literal everything but the blanks around it is evaluated. -/
theorem Expression.trimmed_of_literal? (options : Options)
    (hliteral : kind.arithmetic.literal? expression = some x) :
    trimmed options expression = Text.trim expression.toList :=
  trimmed_eq_trim options (binary_getLast?_of_literal? hliteral)

/-- No letter of an exponent is a control character. -/
theorem isControl_of_isExponentLetter {c : Char} (hletter : isExponentLetter c = true) :
    isControl c = false := by
  obtain rfl | rfl : c = 'e' ∨ c = 'E' := by simpa [isExponentLetter] using hletter
  all_goals rfl

/-- In front of a sign inside of a number stands a word that ends in the letter of an exponent. -/
theorem exists_wordAt_of_sign {text before after : List Char} {c : Char}
    (hspelled : IsSpelled text) (hplain : ∀ d ∈ text, Text.isBlank d = false)
    (htext : text = before ++ c :: after) (hbefore : before ≠ []) (hc : isControl c = true) :
    ∃ position word, WordAt text position (String.ofList word) ∧
      (∀ d ∈ word, Text.isBlank d = false) ∧ ∃ d ∈ word.getLast?, isExponentLetter d = true := by
  have hlast := List.getLast?_eq_some_getLast hbefore
  generalize before.getLast hbefore = letter at hlast
  have hletter : isExponentLetter letter = true := by
    have hsigns := hspelled.signs
    rw [htext, List.isChain_append] at hsigns
    exact hsigns.2.2 letter hlast c rfl hc
  obtain ⟨word, hsplit, hword, hfront⟩ := Text.exists_dropTrailing_append (!isControl ·) before
  generalize Text.dropTrailing (!isControl ·) before = front at hsplit hfront
  cases word with
  | nil =>
    rw [List.append_nil] at hsplit
    have hcontrol := hfront letter (hsplit ▸ hlast)
    simp [isControl_of_isExponentLetter hletter] at hcontrol
  | cons first rest =>
    have hinside : ∀ d ∈ first :: rest, Text.isBlank d = false := fun d hd =>
      hplain d (by
        rw [htext, hsplit]
        exact List.mem_append_left _ (List.mem_append_right _ hd))
    have hkept : (first :: rest).filter (!Text.isBlank ·) = first :: rest :=
      List.filter_eq_self.mpr fun d hd => by simp [hinside d hd]
    have hend : (first :: rest).getLast? = some letter := by
      rwa [hsplit, List.getLast?_append_of_ne_nil _ (List.cons_ne_nil first rest)] at hlast
    refine ⟨front.length, first :: rest, ?_, hinside, letter, hend, hletter⟩
    have hwhole : text = front ++ ([] ++ first :: rest ++ c :: after) := by
      rw [htext, hsplit, List.nil_append, List.append_assoc]
    exact .intro hwhole (by simpa using hfront) (by simpa using hword) (by simpa using hc) nofun
      (hinside first List.mem_cons_self) rfl (by rw [List.nil_append, hkept])

/-- If the stages have a value for a literal, the signs in it stand in front. -/
theorem forall_tail_of_literal? (hliteral : kind.arithmetic.literal? expression = some x)
    (hvalue : (evaluateStages kind.arithmetic options Variables.none expression).result = .ok y) :
    ∀ c ∈ (Text.trim expression.toList).tail, isControl c = false := by
  intro c hc
  by_contra hcontrol
  have hspelled := NumberKind.isSpelled_of_literal? hliteral
  have hplain := NumberKind.isBlank_eq_false_of_literal? hliteral
  have htrimmed := Expression.trimmed_of_literal? options hliteral
  generalize Text.trim expression.toList = text at hc hspelled hplain htrimmed
  cases text with
  | nil => cases hc
  | cons first rest =>
    obtain ⟨before, after, hsplit⟩ := List.append_of_mem hc
    rw [List.tail_cons] at hsplit
    have hwhole : first :: rest = (first :: before) ++ c :: after := by
      rw [hsplit]
      rfl
    obtain ⟨position, word, hword, hinside, letter, hletter, hexponent⟩ :=
      exists_wordAt_of_sign hspelled hplain hwhole (List.cons_ne_nil _ _) (by simpa using hcontrol)
    -- The word would have to be a literal, but no literal ends in the letter of an exponent.
    rw [← htrimmed] at hword
    have hmeans := means_of_result_evaluateStages hvalue (Scanner.mem_tokens_of_wordAt hword) rfl
    rcases hmeans with ⟨z, hz⟩ | ⟨z, hz⟩
    · cases hz
    · obtain ⟨-, last, hlast, -, hnoletter⟩ := NumberKind.isSpelled_of_literal? hz
      rw [String.toList_ofList, Text.trim_eq_self hinside] at hlast
      obtain rfl := Option.mem_unique hlast hletter
      rw [hexponent] at hnoletter
      cases hnoletter

section Words

variable {α : Type} (A : Arithmetic α) (options : Options) (leading gap : Blanks) (word : Word)

/-- In the stages a word is read as it is by itself. -/
theorem result_evaluateStages_word :
    (evaluateStages A options Variables.none
        (String.ofList (leading.chars ++ (word.chars ++ gap.chars)))).result =
      OperatorTree.operandValue A word.text 0 := by
  let e : Infix false .sum := (Infix.operand word gap).ofAtom.ofPower.ofUnary.ofProduct
  have htext : e.text leading = String.ofList (leading.chars ++ (word.chars ++ gap.chars)) := rfl
  have htree : e.tree (Variables.none : Variables α) 0 = .operand word.text 0 := rfl
  rw [← htext, e.result_evaluateStages_eq_eval A Variables.none leading (.inr rfl) rfl, htree,
    OperatorTree.eval]

/-- In the stages a word behind a minus sign is read by itself and then negated. -/
theorem result_evaluateStages_minus :
    (evaluateStages A options Variables.none
        (String.ofList (leading.chars ++ ('-' :: word.chars ++ gap.chars)))).result =
      (OperatorTree.negation (.minus 0) (.operand word.text 1)).eval A := by
  let e : Infix false .sum :=
    (Infix.negation .none (Infix.operand word gap).ofAtom).ofUnary.ofProduct
  have htext : e.text leading =
      String.ofList (leading.chars ++ ('-' :: word.chars ++ gap.chars)) := rfl
  have htree : e.tree (Variables.none : Variables α) 0 =
      .negation (.minus 0) (.operand word.text 1) := rfl
  rw [← htext, e.result_evaluateStages_eq_eval A Variables.none leading (.inr rfl) rfl, htree]

end Words

section Signs

variable (hliteral : kind.arithmetic.literal? expression = some x)
include hliteral

/-- Without the blanks around it a literal is the same literal. -/
theorem literal?_ofList_trim :
    kind.arithmetic.literal? (String.ofList (Text.trim expression.toList)) = some x := by
  have hblank := NumberKind.isBlank_eq_false_of_literal? hliteral
  rw [← hliteral]
  exact kind.literal?_congr (by rw [String.toList_ofList, Text.trim_eq_self hblank])

/-- Behind its sign a literal without further signs is a word. -/
theorem exists_word_of_literal? {sign : Char} {rest : List Char}
    (htrim : Text.trim expression.toList = sign :: rest) (hsign : isControl sign = true)
    (hplain : ∀ c ∈ rest, isControl c = false) : ∃ word : Word, word.chars = rest := by
  have hblank := NumberKind.isBlank_eq_false_of_literal? hliteral
  obtain ⟨-, last, hlast, hcontrol, -⟩ := NumberKind.isSpelled_of_literal? hliteral
  rw [htrim] at hblank hlast
  cases rest with
  | nil =>
    obtain rfl : sign = last := by simpa using hlast
    rw [hsign] at hcontrol
    cases hcontrol
  | cons first rest =>
    exact ⟨⟨first, rest, fun c hc => ⟨hblank c (List.mem_cons_of_mem _ hc), hplain c hc⟩⟩, rfl⟩

/-- A literal without control characters has its value in the stages. -/
theorem result_evaluateStages_unsigned
    (hplain : ∀ c ∈ Text.trim expression.toList, isControl c = false) :
    (evaluateStages kind.arithmetic options Variables.none expression).result = .ok x := by
  have hblank := NumberKind.isBlank_eq_false_of_literal? hliteral
  have hne := (NumberKind.isSpelled_of_literal? hliteral).ne_nil
  obtain ⟨leading, trailing, hsplit, hleading, htrailing⟩ := Text.exists_trim expression.toList
  have hread := literal?_ofList_trim hliteral
  obtain ⟨first, rest, htrim⟩ := List.exists_cons_of_ne_nil hne
  rw [htrim] at hblank hplain hsplit hread
  have hstages := result_evaluateStages_word kind.arithmetic options ⟨leading, hleading⟩
    ⟨trailing, htrailing⟩ ⟨first, rest, fun c hc => ⟨hblank c hc, hplain c hc⟩⟩
  rw [Word.text, Word.chars, OperatorTree.operandValue, hread] at hstages
  rwa [← @String.ofList_toList expression, hsplit]

/-- A literal with no other sign than a minus sign in front has its value in the stages, unless it
is the smallest integer of its kind. -/
theorem result_evaluateStages_negative {rest : List Char}
    (htrim : Text.trim expression.toList = '-' :: rest)
    (hplain : ∀ c ∈ rest, isControl c = false) :
    (¬kind.IsMinimum x ∧
      (evaluateStages kind.arithmetic options Variables.none expression).result = .ok x) ∨
    (kind.IsMinimum x ∧ ∃ failure,
      (evaluateStages kind.arithmetic options Variables.none expression).result =
        .error failure) := by
  obtain ⟨word, hword⟩ := exists_word_of_literal? hliteral htrim (by decide) hplain
  obtain ⟨leading, trailing, hsplit, hleading, htrailing⟩ := Text.exists_trim expression.toList
  have hread := literal?_ofList_trim hliteral
  have hstages := result_evaluateStages_minus kind.arithmetic options ⟨leading, hleading⟩
    ⟨trailing, htrailing⟩ word
  have hopposite := @NumberKind.readsOpposite_literal? kind word.chars
    (fun c hc => (word.plain c hc).1) fun c hc => (word.plain c (List.mem_of_mem_head? hc)).2
  rw [htrim, ← hword] at hread hsplit
  rw [← hsplit, String.ofList_toList] at hstages
  rw [hread] at hopposite
  rw [hstages, OperatorTree.eval, OperatorTree.eval, OperatorTree.operandValue, Word.text]
  generalize kind.arithmetic.literal? (String.ofList word.chars) = unsigned at hopposite ⊢
  -- Without its sign the smallest integer is out of range, so that the stages cannot read it.
  cases hopposite with
  | some hminimum hnegate => exact .inl ⟨hminimum, by rw [ok_bind, hnegate]; rfl⟩
  | minimum hminimum => exact .inr ⟨hminimum, _, rfl⟩

/-- A literal with a plus sign in front has no value in the stages, because the sign has no left
operand. -/
theorem result_evaluateStages_positive {rest : List Char}
    (htrim : Text.trim expression.toList = '+' :: rest)
    (hplain : ∀ c ∈ rest, isControl c = false) :
    (evaluateStages kind.arithmetic options Variables.none expression).result ≠ .ok y := by
  intro hvalue
  -- An addition and one operand are too few operands for a value.
  obtain ⟨word, rfl⟩ := exists_word_of_literal? hliteral htrim (by decide) hplain
  have hplus := Scanner.tokens_operation .add .none word.chars 0
  have hword := @Scanner.tokens_word word .none [] nofun (Infix.behind 0 .none)
  simp only [Blanks.none, List.nil_append, List.append_nil] at hplus hword
  have htokens : Expression.tokens options expression =
      [BinaryOperation.add.token 0, ⟨.operand, word.text, 1⟩] := by
    rw [Expression.tokens, Expression.trimmed_of_literal? options hliteral, htrim]
    exact hplus.trans (by rw [hword, Scanner.tokens_eq_nil (List.forall_mem_nil _)]; rfl)
  have hcount := countP_of_result_evaluateStages hvalue
  rw [htokens] at hcount
  cases hcount

/-- For a literal with plain signs the stages have its value. -/
theorem result_evaluateStages_of_hasPlainSigns
    (hsigns : kind.HasPlainSigns (Text.trim expression.toList) x) :
    (evaluateStages kind.arithmetic options Variables.none expression).result = .ok x := by
  obtain ⟨hplus, hminus, hminimum⟩ := hsigns
  obtain ⟨first, rest, htrim⟩ :=
    List.exists_cons_of_ne_nil (NumberKind.isSpelled_of_literal? hliteral).ne_nil
  have hsign {c : Char} (hc : c ∈ first :: rest) (hcontrol : isControl c = true) : c = '-' := by
    rw [← htrim] at hc
    have heither := NumberKind.eq_sign_of_literal? hliteral (Text.mem_of_mem_trim hc) hcontrol
    exact heither.resolve_left fun h => hplus (h ▸ hc)
  rw [htrim] at hminus hminimum
  have hrest : ∀ c ∈ rest, isControl c = false := fun c hc => by
    by_contra hcontrol
    have heq := hsign (List.mem_cons_of_mem _ hc) (by simpa using hcontrol)
    exact hminus (heq ▸ hc)
  cases hfirst : isControl first with
  | false =>
    exact result_evaluateStages_unsigned hliteral
      (htrim ▸ List.forall_mem_cons.mpr ⟨hfirst, hrest⟩)
  | true =>
    obtain rfl := hsign List.mem_cons_self hfirst
    rcases @result_evaluateStages_negative _ options _ _ hliteral _ htrim hrest with
      ⟨-, hvalue⟩ | ⟨hextreme, -⟩
    · exact hvalue
    · exact absurd hextreme (hminimum rfl)

/-- If the stages have a value for a literal, it is its own, and its signs are plain. -/
theorem hasPlainSigns_of_result_evaluateStages
    (hvalue : (evaluateStages kind.arithmetic options Variables.none expression).result = .ok y) :
    y = x ∧ kind.HasPlainSigns (Text.trim expression.toList) x := by
  obtain ⟨first, rest, htrim⟩ :=
    List.exists_cons_of_ne_nil (NumberKind.isSpelled_of_literal? hliteral).ne_nil
  have hrest := forall_tail_of_literal? hliteral hvalue
  rw [htrim, List.tail_cons] at hrest
  have hnone {c : Char} (hcontrol : isControl c = true) : c ∉ rest := fun hc => by
    rw [hrest c hc] at hcontrol
    cases hcontrol
  have hplus : '+' ∉ rest := hnone (by decide)
  have hminus : '-' ∉ rest := hnone (by decide)
  rw [htrim]
  cases hfirst : isControl first with
  | false =>
    have hstages := @result_evaluateStages_unsigned _ options _ _ hliteral
      (htrim ▸ List.forall_mem_cons.mpr ⟨hfirst, hrest⟩)
    rw [hvalue, Except.ok.injEq] at hstages
    have hother {sign : Char} (hcontrol : isControl sign = true) : first ≠ sign :=
      ne_of_apply_ne isControl (by rw [hfirst, hcontrol]; decide)
    refine ⟨hstages, List.not_mem_cons_of_ne_of_not_mem (hother (by decide)).symm hplus, hminus,
      fun hhead => ?_⟩
    exact absurd (Option.some.inj hhead) (hother (by decide))
  | true =>
    rcases NumberKind.eq_sign_of_literal? hliteral
      (Text.mem_of_mem_trim (htrim ▸ List.mem_cons_self)) hfirst with rfl | rfl
    · exact absurd hvalue (result_evaluateStages_positive hliteral htrim hrest)
    · rcases @result_evaluateStages_negative _ options _ _ hliteral _ htrim hrest with
        ⟨hminimum, hstages⟩ | ⟨-, failure, hstages⟩
      · rw [hvalue, Except.ok.injEq] at hstages
        exact ⟨hstages, List.not_mem_cons_of_ne_of_not_mem (by decide) hplus, hminus,
          fun _ => hminimum⟩
      · rw [hvalue] at hstages
        cases hstages

/-- For a literal the stages have no value but its own, and that exactly if its signs are plain. -/
theorem result_evaluateStages_eq_ok_iff :
    (evaluateStages kind.arithmetic options Variables.none expression).result = .ok y ↔
      y = x ∧ kind.HasPlainSigns (Text.trim expression.toList) x := by
  refine ⟨hasPlainSigns_of_result_evaluateStages hliteral, ?_⟩
  rintro ⟨rfl, hsigns⟩
  exact result_evaluateStages_of_hasPlainSigns hliteral hsigns

end Signs

/-- The stages agree with the reading of literals. For a text that is a literal they have no other
value than the literal, for floating-point numbers with the same sign of zero, and they have it
exactly if the text has no plus sign and no minus sign but one in front, and is then not the
smallest integer of its kind. -/
theorem result_evaluateStages_literal (kind : NumberKind) (options : Options) (expression : String)
    (x : kind.Value) (hliteral : kind.arithmetic.literal? expression = some x) :
    let outcome := (evaluateStages kind.arithmetic options Variables.none expression).result
    (∀ y, outcome = .ok y → y = x) ∧
      ((∃ y, outcome = .ok y) ↔ kind.HasPlainSigns (Text.trim expression.toList) x) := by
  intro outcome
  have hiff (y : kind.Value) : outcome = .ok y ↔ _ := result_evaluateStages_eq_ok_iff hliteral
  refine ⟨fun y hvalue => ((hiff y).mp hvalue).1, ?_, ?_⟩
  · rintro ⟨y, hvalue⟩
    exact ((hiff y).mp hvalue).2
  · exact fun hsigns => ⟨x, (hiff x).mpr ⟨rfl, hsigns⟩⟩

/-- The suffix and the blanks of ` -12f ` are no obstacle. -/
theorem result_evaluateStages_literal_suffix :
    NumberKind.int32.arithmetic.literal? " -12f " = some (-12#32 : BitVec 32) ∧
      (evaluateStages NumberKind.int32.arithmetic {} Variables.none " -12f ").result =
        .ok (-12#32 : BitVec 32) := by
  have hliteral : (Word.arithmetic 32).literal? " -12f " = some (-12#32) := by decide +kernel
  have hminimum : BitVec.toInt (-12#32) ≠ Word.minimum 32 := by decide
  have hsigns : NumberKind.int32.HasPlainSigns (Text.trim " -12f ".toList) (-12#32 : BitVec 32) :=
    ⟨by decide, by decide, fun _ => hminimum⟩
  obtain ⟨hsame, hvalue⟩ := result_evaluateStages_literal .int32 {} " -12f " _ hliteral
  obtain ⟨y, hy⟩ := hvalue.mpr hsigns
  exact ⟨hliteral, (hsame y hy) ▸ hy⟩

/-- The smallest integer is read as a literal, but it is not the opposite of one. -/
example : evaluate .int32 {} Variables.none "-2147483648" = .ok (-2147483648#32 : BitVec 32) ∧
    (evaluateStages NumberKind.int32.arithmetic {} Variables.none "-2147483648").result =
      .error (.unknownOperand "2147483648" 1) := by
  decide +kernel

end Calculator
