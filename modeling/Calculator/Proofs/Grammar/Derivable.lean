import Calculator.Proofs.Postfix.Conservation

/-!
# Derivable tokens

The grammar of expressions, with negation told from subtraction, takes tokens as they are behind
the resolution of minus signs:

    expression ::= operand | ( expression ) | ~ expression | expression operation expression

Tokens leave this grammar in three ways: a parenthesis has no partner, an operand follows another
one directly, or an operand is missing. The tokens without such a defect are derivable.
-/

namespace Calculator

/-- The tokens of the grammar of expressions. -/
inductive Derivable : List Token → Prop
  | operand {token : Token} (hkind : token.kind = .operand) : Derivable [token]
  | group {opening closing : Token} {body : List Token} (hopening : opening.kind = .opening)
      (hbody : Derivable body) (hclosing : closing.kind = .closing) :
      Derivable (opening :: body ++ [closing])
  | negation {sign : Token} {body : List Token} (hsign : sign.kind = .operator Operator.negation)
      (hbody : Derivable body) : Derivable (sign :: body)
  | binary {left right : List Token} {sign : Token} (operation : BinaryOperation)
      (hleft : Derivable left) (hsign : sign.kind = .operator operation.operator)
      (hright : Derivable right) : Derivable (left ++ sign :: right)

namespace Token

/-- Whether an operand starts with a token. -/
def startsOperand (token : Token) : Bool :=
  match token.kind with
  | .operand | .opening => true
  | .closing => false
  | .operator op => op == Operator.negation

/-- Whether an operand ends with a token. -/
def endsOperand (token : Token) : Bool :=
  match token.kind with
  | .operand | .closing => true
  | .opening | .operator _ => false

/-- How many operands start directly behind another one; `behind` says whether an operand ends
directly before the tokens. -/
def juxtaposed (behind : Bool) : List Token → Nat
  | [] => 0
  | token :: rest =>
    (if behind && token.startsOperand then 1 else 0) + juxtaposed token.endsOperand rest

/-- How many operands are missing; `behind` says whether an operand ends directly before the
tokens. -/
def missing (behind : Bool) : List Token → Nat
  | [] => if behind then 0 else 1
  | token :: rest =>
    (if !behind && !token.startsOperand then 1 else 0) + missing token.endsOperand rest

/-- What one token adds to the defects and to the operands and binary operators. -/
theorem defects_step (behind : Bool) (token : Token) :
    (if behind && token.startsOperand then 1 else 0) + (if token.isBinary = true then 1 else 0) +
        token.endsOperand.toNat =
      (if !behind && !token.startsOperand then 1 else 0) +
        (if token.isOperand = true then 1 else 0) + behind.toNat := by
  obtain ⟨kind, text, position⟩ := token
  cases kind with
  | operand | opening | closing => cases behind <;> rfl
  | operator op =>
    by_cases hop : op = Operator.negation
    · subst hop
      cases behind <;> rfl
    · cases behind <;> simp [startsOperand, endsOperand, isBinary, isOperand, hop]

/-- Every operand that follows another one directly adds to the operands, and every missing one to
the binary operators. -/
theorem juxtaposed_add (behind : Bool) (tokens : List Token) :
    juxtaposed behind tokens + tokens.countP isBinary + 1 =
      missing behind tokens + tokens.countP isOperand + behind.toNat := by
  induction tokens generalizing behind with
  | nil => cases behind <;> rfl
  | cons token rest ih =>
    have hstep := defects_step behind token
    have hrest := ih token.endsOperand
    rw [juxtaposed, missing, List.countP_cons, List.countP_cons]
    omega

/-- No operand follows another one directly, and none is missing. -/
def WellPlaced (behind : Bool) (tokens : List Token) : Prop :=
  juxtaposed behind tokens = 0 ∧ missing behind tokens = 0

/-- Tokens are well placed if the first one starts an operand exactly where one is due. -/
theorem wellPlaced_cons {behind : Bool} {token : Token} {rest : List Token} :
    WellPlaced behind (token :: rest) ↔
      token.startsOperand = !behind ∧ WellPlaced token.endsOperand rest := by
  cases behind <;> cases hstarts : token.startsOperand <;>
    simp [WellPlaced, juxtaposed, missing, hstarts]

end Token

namespace Derivable

open Token

/-- Behind derivable tokens defects are counted as behind an operand. -/
theorem defects_append {tokens : List Token} (hderivable : Derivable tokens)
    (rest : List Token) :
    juxtaposed false (tokens ++ rest) = juxtaposed true rest ∧
      missing false (tokens ++ rest) = missing true rest := by
  induction hderivable generalizing rest with
  | @operand token hkind => simp [juxtaposed, missing, startsOperand, endsOperand, hkind]
  | @group opening closing body hopening hbody hclosing ih =>
    simpa [juxtaposed, missing, startsOperand, endsOperand, hopening, hclosing]
      using ih (closing :: rest)
  | @negation sign body hsign hbody ih =>
    simpa [juxtaposed, missing, startsOperand, endsOperand, hsign] using ih rest
  | @binary left right sign operation hleft hsign hright ihleft ihright =>
    have hstarts : sign.startsOperand = false := by
      cases operation <;> simp [startsOperand, hsign] <;> decide
    have hends : sign.endsOperand = false := by simp [endsOperand, hsign]
    have hjuxtaposed : juxtaposed true (sign :: (right ++ rest)) =
        juxtaposed false (right ++ rest) := by simp [juxtaposed, hstarts, hends]
    have hmissing : missing true (sign :: (right ++ rest)) =
        missing false (right ++ rest) := by simp [missing, hends]
    obtain ⟨hfirst, hfirstMissing⟩ := ihleft (sign :: (right ++ rest))
    rw [List.append_assoc, List.cons_append, hfirst, hfirstMissing, hjuxtaposed, hmissing]
    exact ihright rest

/-- Derivable tokens have no defect. -/
theorem wellPlaced {tokens : List Token} (hderivable : Derivable tokens) :
    WellPlaced false tokens := by
  have hdefects := hderivable.defects_append []
  rwa [List.append_nil] at hdefects

/-- What can stand behind derivable tokens in an expression: nothing, or a closing parenthesis and
more that is well placed, with `depth` parentheses to be closed. -/
structure Ends (depth : Nat) (rest : List Token) : Prop where
  wellPlaced : WellPlaced true rest
  isBalanced : isBalanced depth rest = true
  closes : ∀ token ∈ rest.head?, token.kind = .closing

/-- The tokens begin with derivable ones, behind which they end. -/
def Begins (depth : Nat) (tokens : List Token) : Prop :=
  ∃ first rest, tokens = first ++ rest ∧ Derivable first ∧ Ends depth rest

/-- The tokens go on behind derivable ones so that the whole is derivable, and end behind that. -/
def Continues (depth : Nat) (tokens : List Token) : Prop :=
  ∃ more rest, tokens = more ++ rest ∧ (∀ first, Derivable first → Derivable (first ++ more)) ∧
    Ends depth rest

section Steps

variable {depth : Nat} {token : Token} {rest : List Token}

/-- An operand and what goes on behind it. -/
theorem begins_operand (hkind : token.kind = .operand) (hrest : Continues depth rest) :
    Begins depth (token :: rest) := by
  obtain ⟨more, after, rfl, hmore, hends⟩ := hrest
  exact ⟨token :: more, after, rfl, hmore [token] (.operand hkind), hends⟩

/-- A group and what goes on behind it. -/
theorem begins_opening (hkind : token.kind = .opening) (hrest : Begins (depth + 1) rest)
    (hafter : ∀ body partner after, rest = body ++ partner :: after → WellPlaced true after →
      isBalanced depth after = true → Continues depth after) :
    Begins depth (token :: rest) := by
  obtain ⟨body, later, rfl, hbody, hplaced, hbalanced, hcloses⟩ := hrest
  cases later with
  | nil => simp [isBalanced] at hbalanced
  | cons partner after =>
    have hpartner : partner.kind = .closing := hcloses partner rfl
    have hdepth : isBalanced depth after = true := by
      simpa only [isBalanced, hpartner] using hbalanced
    have hplaced' : WellPlaced true after := by
      simpa [endsOperand, hpartner] using (wellPlaced_cons.mp hplaced).2
    obtain ⟨more, ends, rfl, hmore, hends⟩ := hafter body partner after rfl hplaced' hdepth
    have hgroup := hmore _ (.group hkind hbody hpartner)
    exact ⟨token :: body ++ [partner] ++ more, ends, by simp, hgroup, hends⟩

/-- A minus sign in front of its operand. -/
theorem begins_negation (hkind : token.kind = .operator Operator.negation)
    (hrest : Begins depth rest) : Begins depth (token :: rest) := by
  obtain ⟨body, after, rfl, hbody, hends⟩ := hrest
  exact ⟨token :: body, after, rfl, .negation hkind hbody, hends⟩

/-- A closing parenthesis ends what stands before it. -/
theorem continues_closing (hkind : token.kind = .closing)
    (hbalanced : isBalanced depth (token :: rest) = true)
    (hplaced : WellPlaced true (token :: rest)) : Continues depth (token :: rest) := by
  refine ⟨[], token :: rest, rfl, fun first hfirst => ?_, hplaced, hbalanced, ?_⟩
  · rwa [List.append_nil]
  · simpa using hkind

/-- A binary operator goes on with its right operand. -/
theorem continues_operation (operation : BinaryOperation)
    (hkind : token.kind = .operator operation.operator) (hrest : Begins depth rest) :
    Continues depth (token :: rest) := by
  obtain ⟨right, after, rfl, hright, hends⟩ := hrest
  exact ⟨token :: right, after, rfl, fun left hleft => .binary operation hleft hkind hright, hends⟩

end Steps

/-- Well placed tokens with balanced parentheses begin with derivable ones, or go on behind
derivable ones. -/
theorem begins_and_continues {tokens : List Token}
    (hstandard : ∀ token ∈ tokens, token.IsStandard) {depth : Nat}
    (hbalanced : isBalanced depth tokens = true) :
    (WellPlaced false tokens → Begins depth tokens) ∧
      (WellPlaced true tokens → Continues depth tokens) := by
  -- What follows a group is not the rest of the tokens, so that the induction is on the length.
  induction hlength : tokens.length using Nat.strong_induction_on generalizing tokens depth with
  | _ length ih =>
    cases tokens with
    | nil =>
      refine ⟨fun hplaced => absurd hplaced.2 (by simp [missing]), fun hplaced => ?_⟩
      exact ⟨[], [], rfl, fun first hfirst => by rwa [List.append_nil], hplaced, hbalanced, nofun⟩
    | cons token rest =>
      obtain ⟨htoken, hrest⟩ := List.forall_mem_cons.mp hstandard
      rw [List.length_cons] at hlength
      rw [wellPlaced_cons, wellPlaced_cons]
      cases hkind : token.kind with
      | operand =>
        simp only [isBalanced, hkind] at hbalanced
        simp only [startsOperand, endsOperand, hkind]
        have hlater := ih rest.length (by omega) hrest hbalanced rfl
        exact ⟨fun hplaced => begins_operand hkind (hlater.2 hplaced.2), fun hplaced => by
          cases hplaced.1⟩
      | opening =>
        simp only [isBalanced, hkind] at hbalanced
        simp only [startsOperand, endsOperand, hkind]
        have hlater := ih rest.length (by omega) hrest hbalanced rfl
        refine ⟨fun hplaced => begins_opening hkind (hlater.1 hplaced.2) ?_, fun hplaced => by
          cases hplaced.1⟩
        rintro body partner after rfl hafter hdepth
        rw [List.length_append, List.length_cons] at hlength
        exact (ih after.length (by omega)
          (fun token htoken => hrest token (by simp [htoken])) hdepth rfl).2 hafter
      | closing =>
        refine ⟨fun hplaced => ?_, fun hplaced => ?_⟩
        · simp [startsOperand, hkind] at hplaced
        · exact continues_closing hkind hbalanced (wellPlaced_cons.mpr hplaced)
      | operator op =>
        simp only [isBalanced, hkind] at hbalanced
        simp only [startsOperand, endsOperand, hkind]
        have hlater := ih rest.length (by omega) hrest hbalanced rfl
        rcases Operator.mem_table_iff.mp (htoken op hkind) with rfl | ⟨operation, rfl⟩
        · exact ⟨fun hplaced => begins_negation hkind (hlater.1 hplaced.2), fun hplaced => by
            cases hplaced.1⟩
        · refine ⟨fun hplaced => ?_, fun hplaced => ?_⟩
          · cases operation <;> cases hplaced.1
          · exact continues_operation operation hkind (hlater.1 hplaced.2)

/-- Tokens with balanced parentheses and without defects are derivable. -/
theorem of_wellPlaced {tokens : List Token} (hstandard : ∀ token ∈ tokens, token.IsStandard)
    (hbalanced : isBalanced 0 tokens = true) (hplaced : WellPlaced false tokens) :
    Derivable tokens := by
  obtain ⟨first, rest, rfl, hfirst, -, hdepth, hcloses⟩ :=
    (begins_and_continues hstandard hbalanced).1 hplaced
  cases rest with
  | nil => rwa [List.append_nil]
  | cons token rest =>
    have hclosing : token.kind = .closing := hcloses token rfl
    simp [isBalanced, hclosing] at hdepth

end Derivable

end Calculator
