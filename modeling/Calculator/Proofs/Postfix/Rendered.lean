import Calculator.Proofs.Postfix.Order
import Calculator.Proofs.Stages
import Calculator.Proofs.Token.Factored

/-!
# The text of a postfix form

The text of a postfix form can be read back: it is cut at its spaces, which no token contains. What a
token is shown as tells its kind, with one exception. The symbol of negation cannot be written as an
operator, but it can be written as an operand, and then it is shown as negation is.
-/

namespace Calculator

namespace Token

/-- Whether a token is an operand that is shown as negation is. -/
def MimicsNegation (token : Token) : Prop :=
  token.kind = .operand ∧ token.shown = String.singleton Operator.negation.symbol

/-- Whether a token is written as what it stands for or has become negation. -/
def IsResolved (token : Token) : Prop :=
  token.IsWritten ∨ token.kind = .operator Operator.negation

/-- Whether two tokens are shown alike, and of one kind unless just one of them mimics negation. -/
def AreShownAlike (token other : Token) : Prop :=
  token.shown = other.shown ∧
    (token.kind = other.kind ↔ (token.MimicsNegation ↔ other.MimicsNegation))

/-- Resolving minus signs leaves tokens that are written as what they stand for or negate. -/
theorem isResolved_resolve (options : Options) (expression : String) :
    ∀ token ∈ resolve options (Expression.tokens options expression), token.IsResolved := by
  refine forall_mem_resolveFrom fun token htoken previous => ?_
  have hwritten : token.IsWritten := Scanner.isWritten_of_mem_tokens _ token htoken
  unfold resolveAfter
  split
  · exact .inr rfl
  · exact .inl hwritten

/-- A token that is written as what it stands for is shown as it is written. -/
theorem IsWritten.shown_eq {token : Token} (hwritten : token.IsWritten) :
    token.shown = token.text := by
  obtain ⟨kind, text, position⟩ := token
  cases kind with
  | operand => rfl
  | opening | closing => exact hwritten.symm
  | operator op => exact hwritten.1.symm

/-- What a token is written with has characters, none of which is a blank. -/
theorem IsWritten.isBlank_eq_false {token : Token} (hwritten : token.IsWritten) :
    ∀ c ∈ token.text.toList, Text.isBlank c = false := by
  by_cases hkind : token.kind = .operand
  · obtain ⟨kind, text, position⟩ := token
    obtain rfl : kind = .operand := hkind
    exact fun c hc => (hwritten.2 c hc).1
  · obtain ⟨c, hcontrol, htext⟩ := hwritten.exists_control hkind
    simpa [htext] using Kind.isBlank_of_ofControl? hcontrol

/-- A resolved token is shown as a word: it has characters, and no space is among them. -/
theorem IsResolved.shown_isWord {token : Token} (hresolved : token.IsResolved) :
    token.shown.toList ≠ [] ∧ ' ' ∉ token.shown.toList := by
  rcases hresolved with hwritten | hnegation
  · obtain ⟨c, hhead, -⟩ := hwritten.exists_head
    rw [hwritten.shown_eq]
    refine ⟨fun hnil => ?_, fun hspace => ?_⟩
    · rw [hnil] at hhead
      cases hhead
    · exact absurd (hwritten.isBlank_eq_false ' ' hspace) (by decide)
  · simp only [shown, hnegation]
    decide

/-- The words of a text, between spaces; an empty text has none. -/
def words (text : String) : List (List Char) :=
  if text.toList = [] then [] else text.toList.splitOn ' '

/-- The words of the text of tokens are what these are shown as. -/
theorem words_render {tokens : List Token} (hresolved : ∀ token ∈ tokens, token.IsResolved) :
    words (render tokens) = tokens.map (·.shown.toList) := by
  have htext : (render tokens).toList = [' '].intercalate (tokens.map (·.shown.toList)) := by
    rw [render, String.toList_intercalate, List.map_map]
    rfl
  cases tokens with
  | nil => rfl
  | cons token rest =>
    have hsplit : (render (token :: rest)).toList.splitOn ' ' =
        (token :: rest).map (·.shown.toList) := by
      rw [htext]
      refine List.splitOn_intercalate ' ' (fun word hword => ?_) (List.cons_ne_nil _ _)
      obtain ⟨other, hother, rfl⟩ := List.mem_map.mp hword
      exact (hresolved other hother).shown_isWord.2
    have hne : (render (token :: rest)).toList ≠ [] := by
      intro hnil
      rw [hnil, List.map_cons] at hsplit
      exact (hresolved token List.mem_cons_self).shown_isWord.1
        (List.cons_eq_cons.mp hsplit).1.symm
    rw [words, if_neg hne, hsplit]

/-- The text of tokens tells what each of them is shown as. -/
theorem map_shown_of_render_eq {tokens others : List Token}
    (htokens : ∀ token ∈ tokens, token.IsResolved) (hothers : ∀ token ∈ others, token.IsResolved)
    (hrender : render tokens = render others) : tokens.map shown = others.map shown := by
  have hwords := words_render htokens
  rw [hrender, words_render hothers] at hwords
  refine List.map_injective_iff.mpr (fun _ _ => String.toList_inj.mp) ?_
  rw [List.map_map, List.map_map]
  exact hwords.symm

/-- No operand is written as another token is. -/
theorem IsWritten.text_ne {operand other : Token} (hoperand : operand.IsWritten)
    (hother : other.IsWritten) (hkind : operand.kind = .operand) (hne : other.kind ≠ .operand) :
    operand.text ≠ other.text := by
  obtain ⟨c, hcontrol, hsingle⟩ := hother.exists_control hne
  obtain ⟨kind, text, position⟩ := operand
  obtain rfl : kind = .operand := hkind
  intro hsame
  have htext : text = String.singleton c := hsame.trans hsingle
  have hplain := isControl_eq_false_iff.mpr (hoperand.2 c (by simp [htext])).2
  rw [Kind.isControl_of_ofControl? hcontrol] at hplain
  cases hplain

/-- Tokens that are written alike, each as what it stands for, are of one kind. -/
theorem IsWritten.kind_eq {token other : Token} (htoken : token.IsWritten)
    (hother : other.IsWritten) (htext : token.text = other.text) : token.kind = other.kind := by
  by_cases hkind : token.kind = .operand
  · by_cases hkind' : other.kind = .operand
    · rw [hkind, hkind']
    · exact absurd htext (htoken.text_ne hother hkind hkind')
  · by_cases hkind' : other.kind = .operand
    · exact absurd htext.symm (hother.text_ne htoken hkind' hkind)
    · obtain ⟨c, hc, hsingle⟩ := htoken.exists_control hkind
      obtain ⟨d, hd, hsingle'⟩ := hother.exists_control hkind'
      obtain rfl : c = d := by simpa [hsingle, hsingle'] using congrArg String.toList htext
      exact Option.some.inj (hc.symm.trans hd)

/-- The symbol of negation is written only as an operand. -/
theorem IsWritten.mimicsNegation {token : Token} (hwritten : token.IsWritten)
    (hshown : token.shown = String.singleton Operator.negation.symbol) : token.MimicsNegation := by
  refine ⟨?_, hshown⟩
  by_contra hkind
  obtain ⟨c, hc, hsingle⟩ := hwritten.exists_control hkind
  rw [hwritten.shown_eq, hsingle] at hshown
  obtain rfl : c = Operator.negation.symbol := by simpa using congrArg String.toList hshown
  cases hc

/-- Tokens that are shown alike are of one kind unless just one of them mimics negation. -/
theorem IsResolved.kind_eq_iff {token other : Token} (htoken : token.IsResolved)
    (hother : other.IsResolved) (hshown : token.shown = other.shown) :
    token.kind = other.kind ↔ (token.MimicsNegation ↔ other.MimicsNegation) := by
  have hnegates {sign : Token} (hsign : sign.kind = .operator Operator.negation) :
      sign.shown = String.singleton Operator.negation.symbol ∧ ¬sign.MimicsNegation :=
    ⟨by simp only [shown, hsign], fun hmimics => by simp [MimicsNegation, hsign] at hmimics⟩
  constructor
  · intro hkind
    rw [MimicsNegation, MimicsNegation, hkind, hshown]
  · intro hmimics
    rcases htoken with htoken | htoken <;> rcases hother with hother | hother
    · exact htoken.kind_eq hother (by rw [← htoken.shown_eq, hshown, hother.shown_eq])
    · obtain ⟨hsymbol, hnone⟩ := hnegates hother
      exact absurd (hmimics.mp (htoken.mimicsNegation (hshown.trans hsymbol))) hnone
    · obtain ⟨hsymbol, hnone⟩ := hnegates htoken
      exact absurd (hmimics.mpr (hother.mimicsNegation (hshown.symm.trans hsymbol))) hnone
    · rw [htoken, hother]

/-- Tokens of which each one is shown as its counterpart agree in kind with it, unless just one of
both mimics negation. -/
theorem forall₂_of_map_shown_eq {tokens others : List Token}
    (htokens : ∀ token ∈ tokens, token.IsResolved) (hothers : ∀ token ∈ others, token.IsResolved)
    (hshown : tokens.map shown = others.map shown) :
    List.Forall₂ AreShownAlike tokens others := by
  induction tokens generalizing others with
  | nil =>
    obtain rfl : others = [] := by simpa using hshown.symm
    exact .nil
  | cons token rest ih =>
    obtain ⟨other, more, rfl⟩ := List.exists_cons_of_ne_nil
      (show others ≠ [] by rintro rfl; cases hshown)
    obtain ⟨htoken, hrest⟩ := List.forall_mem_cons.mp htokens
    obtain ⟨hother, hmore⟩ := List.forall_mem_cons.mp hothers
    obtain ⟨hfirst, hlater⟩ := List.cons_eq_cons.mp hshown
    exact .cons ⟨hfirst, htoken.kind_eq_iff hother hfirst⟩ (ih hrest hmore hlater)

end Token

namespace Postfix

open Token

/-- The tokens of the postfix form of an expression are resolved. -/
theorem isResolved_of_mem_form {options : Options} {expression : String} {form : List Token}
    (hform : (ofExpression options expression).result = .ok form) :
    ∀ token ∈ form, token.IsResolved := by
  rw [result_ofExpression] at hform
  split at hform
  · cases hform
  · intro token htoken
    have hmem := (arranges_of_arrange hform).mem_or_mem token htoken
    exact isResolved_resolve options expression token (hmem.resolve_left List.not_mem_nil)

/-- The text of a postfix form tells how many tokens the form has and what each of them is shown as.
Of two forms with one text the tokens at every place are of one kind, unless just one of the two is
an operand that is shown as negation is. -/
theorem ofExpression_of_render_eq {expression other text : String}
    (hexpression : render expression = .ok text) (hother : render other = .ok text) :
    ∃ form twin, (ofExpression {} expression).result = .ok form ∧
      (ofExpression {} other).result = .ok twin ∧
      List.Forall₂ AreShownAlike form twin := by
  obtain ⟨form, hform, hshown⟩ := map_eq_ok_iff.mp hexpression
  obtain ⟨twin, htwin, hshown'⟩ := map_eq_ok_iff.mp hother
  have hresolved := isResolved_of_mem_form hform
  have hresolved' := isResolved_of_mem_form htwin
  refine ⟨form, twin, hform, htwin, forall₂_of_map_shown_eq hresolved hresolved' ?_⟩
  exact map_shown_of_render_eq hresolved hresolved' (hshown.trans hshown'.symm)

/-- Parentheses that change nothing leave no trace in the text, and an operand that mimics negation
does not hide the negation behind it. -/
theorem ofExpression_of_render_eq_negatedProduct :
    render "-~ * y" = .ok "~ ~ y *" ∧ render "((-~)) * y" = .ok "~ ~ y *" ∧
      ∃ form twin, (ofExpression {} "-~ * y").result = .ok form ∧
        (ofExpression {} "((-~)) * y").result = .ok twin ∧
        List.Forall₂ AreShownAlike form twin := by
  have hfirst : render "-~ * y" = .ok "~ ~ y *" := by decide +kernel
  have hsecond : render "((-~)) * y" = .ok "~ ~ y *" := by decide +kernel
  exact ⟨hfirst, hsecond, ofExpression_of_render_eq hfirst hsecond⟩

/-- In `-~-~` the first operand is negated, in `~--~` the second one, and both have the same
text. -/
theorem render_negationMimicked :
    render "-~-~" = .ok "~ ~ ~ -" ∧ render "~--~" = .ok "~ ~ ~ -" ∧
      List.map Token.kind <$> (ofExpression {} "-~-~").result ≠
        List.map Token.kind <$> (ofExpression {} "~--~").result := by
  decide +kernel

end Postfix

end Calculator
