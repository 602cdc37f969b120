import Calculator.Proofs.Postfix.Strictness
import Calculator.Proofs.Postfix.Unclosed

/-!
# Closing parentheses that are tolerated

Without strictness a closing parenthesis without a partner closes a group that began at the start of
the expression: the postfix form is the one behind as many opening parentheses as partners are
missing. With these in front every closing parenthesis has a partner, and the same opening ones stay
open as before.
-/

namespace Calculator

namespace Token

/-- The number of closing parentheses that find none open, where `depth` are open before. Each of
the others takes the one that was opened last. -/
def surplus (depth : Nat) : List Token → Nat
  | [] => 0
  | token :: rest =>
    match token.kind, depth with
    | .opening, _ => surplus (depth + 1) rest
    | .closing, 0 => surplus 0 rest + 1
    | .closing, depth + 1 => surplus depth rest
    | _, _ => surplus depth rest

section Surplus

variable {token : Token}

/-- A token other than a parenthesis does not change the depth. -/
theorem surplus_cons (hkind : token.isParenthesis = false) (depth : Nat) (rest : List Token) :
    surplus depth (token :: rest) = surplus depth rest := by
  obtain ⟨kind, text, position⟩ := token
  cases kind <;> first | rfl | cases hkind

/-- An opening parenthesis makes the rest deeper. -/
theorem surplus_opening (hkind : token.kind = .opening) (depth : Nat) (rest : List Token) :
    surplus depth (token :: rest) = surplus (depth + 1) rest := by
  simp only [surplus, hkind]

/-- A closing parenthesis takes an open one. -/
theorem surplus_closing (hkind : token.kind = .closing) (depth : Nat) (rest : List Token) :
    surplus (depth + 1) (token :: rest) = surplus depth rest := by
  simp only [surplus, hkind]

/-- A closing parenthesis that finds none open is counted. -/
theorem surplus_zero_closing (hkind : token.kind = .closing) (rest : List Token) :
    surplus 0 (token :: rest) = surplus 0 rest + 1 := by
  simp only [surplus, hkind]

/-- One more parenthesis that is open before gives one more closing parenthesis a partner, if there
is one without. -/
theorem surplus_add_one (depth : Nat) (tokens : List Token) :
    surplus (depth + 1) tokens = surplus depth tokens - 1 := by
  induction tokens generalizing depth with
  | nil => rfl
  | cons token rest ih =>
    rcases token.parenthesis_cases with hkind | hkind | hkind
    · rw [surplus_cons hkind, surplus_cons hkind, ih]
    · rw [surplus_opening hkind, surplus_opening hkind, ih]
    · rw [surplus_closing hkind]
      cases depth with
      | zero => rw [surplus_zero_closing hkind, Nat.add_sub_cancel]
      | succ depth => rw [surplus_closing hkind, ih]

/-- Opening parentheses in front give as many closing ones a partner. -/
theorem surplus_openings_append {openings : List Token}
    (hopenings : ∀ opening ∈ openings, opening.kind = .opening) (depth : Nat)
    (tokens : List Token) :
    surplus depth (openings ++ tokens) = surplus depth tokens - openings.length := by
  induction openings generalizing depth with
  | nil => rfl
  | cons opening others ih =>
    obtain ⟨hopening, hothers⟩ := List.forall_mem_cons.mp hopenings
    rw [List.cons_append, surplus_opening hopening, ih hothers, surplus_add_one, List.length_cons]
    omega

/-- What stands behind a stray closing parenthesis does not give it a partner. -/
theorem HasStrayClosing.append {read : List Token} (hstray : HasStrayClosing read)
    (more : List Token) : HasStrayClosing (read ++ more) := by
  obtain ⟨before, closing, after, rfl, hclosing, hnone⟩ := hstray
  exact ⟨before, closing, after ++ more, by simp, hclosing, hnone⟩

/-- Behind tokens that were read, the parentheses that are open among them are what closing ones can
find. -/
theorem hasStrayClosing_append_iff {outer read tokens : List Token} (hopens : Opens outer read)
    (hnone : ¬HasStrayClosing read) :
    HasStrayClosing (read ++ tokens) ↔ surplus outer.length tokens ≠ 0 := by
  induction tokens generalizing outer read with
  | nil => simp [surplus, hnone]
  | cons token rest ih =>
    have hread : read ++ token :: rest = read ++ [token] ++ rest := by simp
    have hsame (hkind : token.kind ≠ .closing) : ¬HasStrayClosing (read ++ [token]) := by
      rw [hasStrayClosing_concat]
      exact not_or.mpr ⟨hnone, fun hstray => hkind hstray.1⟩
    rw [hread]
    rcases token.parenthesis_cases with hkind | hkind | hkind
    · have hother : token.kind ≠ .closing := fun hclosing => by
        simp [isParenthesis, hclosing] at hkind
      rw [surplus_cons hkind, ih (hopens.concat hkind) (hsame hother)]
    · have hdeeper : Opens (token :: outer) (read ++ [token]) := .opening hopens hkind rfl
      rw [surplus_opening hkind, ih hdeeper (hsame (by simp [hkind])), List.length_cons]
    · cases outer with
      | nil =>
        have hstray : HasStrayClosing (read ++ [token]) :=
          hasStrayClosing_concat.mpr (.inr ⟨hkind, not_hasOpener_of_isBalanced hopens.isBalanced⟩)
        rw [List.length_nil, surplus_zero_closing hkind]
        exact iff_of_true (hstray.append rest) (Nat.succ_ne_zero _)
      | cons opening outer =>
        have hclosed : ¬HasStrayClosing (read ++ [token]) := by
          rw [hasStrayClosing_concat]
          exact not_or.mpr ⟨hnone, fun hstray => hstray.2 hopens.hasOpener⟩
        rw [List.length_cons, surplus_closing hkind, ih (hopens.concat_closing hkind) hclosed]

/-- Closing parentheses that find none open are those without a partner. -/
theorem hasStrayClosing_iff {tokens : List Token} :
    HasStrayClosing tokens ↔ surplus 0 tokens ≠ 0 := by
  have hnone : ¬HasStrayClosing [] := fun ⟨_, _, _, hsplit, _⟩ => by simp at hsplit
  exact @hasStrayClosing_append_iff [] [] tokens (.balanced rfl) hnone

end Surplus

/-- As many parentheses that are open before all others as there are closing ones without a partner
change nothing in what stays open. -/
theorem unclosedFrom_append {opened first : List Nat} {place : Nat} {tokens : List Token}
    (hlength : first.length = surplus opened.length tokens) :
    unclosedFrom (opened ++ first) place tokens = unclosedFrom opened place tokens := by
  induction tokens generalizing opened first place with
  | nil =>
    obtain rfl : first = [] := List.eq_nil_of_length_eq_zero hlength
    rw [List.append_nil]
  | cons token rest ih =>
    cases hkind : token.kind with
    | operand | operator =>
      rw [surplus_cons (by simp [isParenthesis, hkind])] at hlength
      simp only [unclosedFrom, hkind]
      exact ih hlength
    | opening =>
      rw [surplus_opening hkind] at hlength
      simp only [unclosedFrom, hkind]
      exact @ih (place :: opened) first (place + 1) hlength
    | closing =>
      simp only [unclosedFrom, hkind]
      cases opened with
      | nil =>
        rw [List.length_nil, surplus_zero_closing hkind] at hlength
        exact @ih [] first.tail (place + 1) (by rw [List.length_tail, List.length_nil]; omega)
      | cons last opened =>
        rw [List.length_cons, surplus_closing hkind] at hlength
        exact ih hlength

/-- Tokens that stand further behind have the same open parentheses, at places further behind. -/
theorem unclosedFrom_add (shift : Nat) (opened : List Nat) (place : Nat) (tokens : List Token) :
    unclosedFrom (opened.map (shift + ·)) (shift + place) tokens =
      (unclosedFrom opened place tokens).map (shift + ·) := by
  induction tokens generalizing opened place with
  | nil => rfl
  | cons token rest ih =>
    cases hkind : token.kind with
    | operand | operator =>
      simp only [unclosedFrom, hkind]
      exact ih opened (place + 1)
    | opening =>
      simp only [unclosedFrom, hkind]
      exact ih (place :: opened) (place + 1)
    | closing =>
      simp only [unclosedFrom, hkind, ← List.map_tail]
      exact ih opened.tail (place + 1)

/-- Opening parentheses are open behind them. -/
theorem exists_unclosedFrom_openings {openings : List Token}
    (hopenings : ∀ opening ∈ openings, opening.kind = .opening) (opened : List Nat) (place : Nat)
    (tokens : List Token) :
    ∃ first, first.length = openings.length ∧
      unclosedFrom opened place (openings ++ tokens) =
        unclosedFrom (first ++ opened) (place + openings.length) tokens := by
  induction openings generalizing opened place with
  | nil => exact ⟨[], rfl, rfl⟩
  | cons opening others ih =>
    obtain ⟨hopening, hothers⟩ := List.forall_mem_cons.mp hopenings
    obtain ⟨first, hfirst, hunclosed⟩ := ih hothers (place :: opened) (place + 1)
    refine ⟨first ++ [place], by rw [List.length_append, hfirst]; rfl, ?_⟩
    simp only [List.cons_append, unclosedFrom, hopening, hunclosed, List.length_cons,
      List.append_assoc, List.nil_append]
    congr 1
    omega

/-- With as many opening parentheses in front as partners are missing, the others that stay open are
the same as before. -/
theorem unclosed_openings_append {openings tokens : List Token}
    (hopenings : ∀ opening ∈ openings, opening.kind = .opening)
    (hlength : openings.length = surplus 0 tokens) :
    unclosed (openings ++ tokens) = (unclosed tokens).map (openings.length + ·) := by
  obtain ⟨first, hfirst, hunclosed⟩ := exists_unclosedFrom_openings hopenings [] 0 tokens
  have hdropped : unclosedFrom first (0 + openings.length) tokens =
      unclosedFrom [] (0 + openings.length) tokens :=
    @unclosedFrom_append [] _ _ _ (hfirst.trans hlength)
  rw [unclosed, hunclosed, List.append_nil, hdropped, Nat.add_comm 0]
  exact unclosedFrom_add openings.length [] 0 tokens

end Token

namespace Postfix

open Token

/-- As many opening parentheses below all that is pending as there are closing ones without a
partner change nothing: each of them is taken instead of none. -/
theorem arrange_append_openings {pending openings tokens : List Token}
    (hopenings : ∀ opening ∈ openings, opening.isOpening = true)
    (hlength : openings.length = surplus (pending.countP (·.isOpening)) tokens) :
    arrange false (pending ++ openings) tokens = arrange false pending tokens := by
  induction tokens generalizing pending openings with
  | nil =>
    obtain rfl : openings = [] := List.eq_nil_of_length_eq_zero hlength
    rw [List.append_nil]
  | cons token rest ih =>
    cases hkind : token.kind with
    | operand =>
      rw [surplus_cons (by simp [isParenthesis, hkind])] at hlength
      rw [arrange_operand hkind, arrange_operand hkind, ih hopenings hlength]
    | opening =>
      have hopening : token.isOpening = true := by simp [isOpening, hkind]
      rw [surplus_opening hkind, ← List.countP_cons_of_pos (a := token) hopening] at hlength
      rw [arrange_opening hkind, arrange_opening hkind, ← List.cons_append,
        ih hopenings hlength]
    | closing =>
      rcases isOpening_cases pending with
        hnone | ⟨group, partner, below, rfl, hgroup, hpartner⟩
      · -- The closing parenthesis is stray: it takes the first of those below.
        have hclosed : pending.countP (·.isOpening) = 0 := List.countP_eq_zero.mpr (by simpa)
        rw [hclosed, surplus_zero_closing hkind] at hlength
        obtain ⟨opening, others, rfl⟩ := List.exists_cons_of_length_eq_add_one hlength
        obtain ⟨hopening, hothers⟩ := List.forall_mem_cons.mp hopenings
        have hlater := @ih [] others hothers (Nat.succ_injective hlength)
        rw [List.nil_append] at hlater
        rw [arrange_closing hkind hnone hopening, arrange_stray hkind hnone, hlater]
        rfl
      · rw [countP_append_of_none hgroup, List.countP_cons_of_pos hpartner,
          surplus_closing hkind] at hlength
        rw [List.append_assoc, List.cons_append, arrange_closing hkind hgroup hpartner,
          arrange_closing hkind hgroup hpartner, ih hopenings hlength]
    | operator op =>
      obtain ⟨blocking, below, rfl, hblocking, hbelow⟩ := exists_span (isBlockedBy op) pending
      have hopening : ¬token.isOpening = true := by simp [isOpening, hkind]
      have hnone : ∀ top ∈ blocking, top.isOpening = false := fun top htop =>
        isOpening_of_isBlockedBy (hblocking top htop)
      -- The parentheses below block no operator.
      have hbelow' : ∀ top ∈ (below ++ openings).head?, isBlockedBy op top = false := by
        cases below with
        | cons first below => exact hbelow
        | nil =>
          intro top htop
          by_contra hblocked
          have hother := isOpening_of_isBlockedBy (Bool.not_eq_false _ ▸ hblocked)
          rw [hopenings top (List.mem_of_mem_head? htop)] at hother
          cases hother
      rw [surplus_cons (by simp [isParenthesis, hkind]), countP_append_of_none hnone,
        ← List.countP_cons_of_neg (a := token) hopening] at hlength
      rw [List.append_assoc, arrange_operator hkind hblocking hbelow',
        arrange_operator hkind hblocking hbelow, ← List.cons_append, ih hopenings hlength]

/-- Opening parentheses become pending. -/
theorem arrange_openings_append {strict : Bool} {openings : List Token}
    (hopenings : ∀ opening ∈ openings, opening.kind = .opening) (pending tokens : List Token) :
    arrange strict pending (openings ++ tokens) =
      arrange strict (openings.reverse ++ pending) tokens := by
  induction openings generalizing pending with
  | nil => rfl
  | cons opening others ih =>
    obtain ⟨hopening, hothers⟩ := List.forall_mem_cons.mp hopenings
    rw [List.cons_append, arrange_opening hopening, ih hothers, List.reverse_cons,
      List.append_assoc, List.singleton_append]

/-- Without strictness every closing parenthesis without a partner closes a group that began at the
start of the expression. With as many opening parentheses in front as there are such closing ones,
the postfix form is the same, every closing parenthesis has a partner, and the same other ones stay
open. -/
theorem ofTokens_openings_append {options : Options} (htolerant : options.strict = false)
    {openings tokens : List Token} (hopenings : ∀ opening ∈ openings, opening.kind = .opening)
    (hlength : openings.length = surplus 0 tokens) :
    (∃ form, ofTokens options tokens = .ok form ∧
      ofTokens options (openings ++ tokens) = .ok form) ∧
    ¬HasStrayClosing (openings ++ tokens) ∧
    unclosed (openings ++ tokens) = (unclosed tokens).map (openings.length + ·) := by
  refine ⟨?_, ?_, unclosed_openings_append hopenings hlength⟩
  · have hpending : ∀ opening ∈ openings.reverse, opening.isOpening = true := fun opening hmem => by
      simp [isOpening, hopenings opening (List.mem_reverse.mp hmem)]
    have hsame : arrange false openings.reverse tokens = arrange false [] tokens :=
      @arrange_append_openings [] _ _ hpending (List.length_reverse.trans hlength)
    obtain ⟨form, hform⟩ := exists_arrange_tolerant [] tokens
    rw [ofTokens, ofTokens, htolerant, arrange_openings_append hopenings, List.append_nil, hsame]
    exact ⟨form, hform, hform⟩
  · rw [hasStrayClosing_iff, surplus_openings_append hopenings, hlength, Nat.sub_self]
    exact absurd rfl

/-- The tokens of `x) + y) * (z`. -/
def closedTwice : List Token :=
  [⟨.operand, "x", 0⟩, ⟨.closing, ")", 1⟩, ⟨.operator BinaryOperation.add.operator, "+", 3⟩,
    ⟨.operand, "y", 5⟩, ⟨.closing, ")", 6⟩, ⟨.operator BinaryOperation.multiply.operator, "*", 8⟩,
    ⟨.opening, "(", 10⟩, ⟨.operand, "z", 11⟩]

/-- The tokens mean `((x) + y) * (z`, where the last parenthesis stays open. -/
theorem ofTokens_openings_append_closedTwice :
    let openings : List Token := [⟨.opening, "(", 7⟩, ⟨.opening, "(", 7⟩]
    openings.length = surplus 0 closedTwice ∧
      (∃ form, ofTokens {} closedTwice = .ok form ∧
        ofTokens {} (openings ++ closedTwice) = .ok form) ∧
      ¬HasStrayClosing (openings ++ closedTwice) ∧
      unclosed (openings ++ closedTwice) = (unclosed closedTwice).map (2 + ·) ∧
      unclosed closedTwice = [6] := by
  intro openings
  have hlength : openings.length = surplus 0 closedTwice := rfl
  obtain ⟨hform, hstray, hunclosed⟩ :=
    @ofTokens_openings_append {} rfl openings closedTwice (by decide) hlength
  exact ⟨hlength, hform, hstray, hunclosed, rfl⟩

end Postfix

end Calculator
