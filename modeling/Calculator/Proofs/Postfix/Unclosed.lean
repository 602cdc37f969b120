import Calculator.Proofs.Postfix.Partners

/-!
# Parentheses that stay open

Closing parentheses take opening ones from the left to the right, each the last one that is still
open. What is left then are the opening parentheses that have no partner behind them.
-/

namespace Calculator.Token

/-- The places of the opening parentheses without a partner, the last one first, among tokens that
stand from `place` on, where those at the places `opened` are open before. A closing parenthesis
takes the last one that is open; without any it is passed over. -/
def unclosedFrom (opened : List Nat) (place : Nat) : List Token → List Nat
  | [] => opened
  | token :: rest =>
    match token.kind with
    | .opening => unclosedFrom (place :: opened) (place + 1) rest
    | .closing => unclosedFrom opened.tail (place + 1) rest
    | .operand | .operator _ => unclosedFrom opened (place + 1) rest

/-- The places of the opening parentheses that no closing parenthesis takes, the last one first. -/
def unclosed (tokens : List Token) : List Nat :=
  unclosedFrom [] 0 tokens

/-- An opening parenthesis without a partner stands at a place of the list. -/
def StraysAt (tokens : List Token) (place : Nat) : Prop :=
  ∃ opening, tokens[place]? = some opening ∧ opening.kind = .opening ∧
    ¬HasCloser (tokens.drop (place + 1))

/-- Whether the first token strays is decided by those behind it. -/
theorem straysAt_cons_zero {token : Token} {rest : List Token} :
    StraysAt (token :: rest) 0 ↔ token.kind = .opening ∧ ¬HasCloser rest := by
  simp [StraysAt]

/-- Whether a later token strays does not depend on those before it. -/
theorem straysAt_cons_add_one {token : Token} {rest : List Token} {place : Nat} :
    StraysAt (token :: rest) (place + 1) ↔ StraysAt rest place :=
  Iff.rfl

/-- Some closing parenthesis takes an opening one before the tokens behind which `depth` others are
open. -/
def Closes (depth : Nat) (after : List Token) : Prop :=
  ∃ body closing later, after = body ++ closing :: later ∧ closing.kind = .closing ∧
    isBalanced depth body = true

/-- A closing parenthesis takes the last one that is open. -/
theorem closes_zero_closing {token : Token} (hkind : token.kind = .closing) (rest : List Token) :
    Closes 0 (token :: rest) :=
  ⟨[], token, rest, rfl, hkind, rfl⟩

/-- What a first token does to the depth it does to the parenthesis that is taken. -/
theorem closes_cons_iff {token : Token} {depth inner : Nat}
    (hbody : ∀ body, isBalanced depth (token :: body) = isBalanced inner body)
    (hfirst : token.kind = .closing → depth ≠ 0) (rest : List Token) :
    Closes depth (token :: rest) ↔ Closes inner rest := by
  constructor
  · rintro ⟨body, closing, later, hsplit, hclosing, hdepth⟩
    cases body with
    | nil =>
      obtain ⟨rfl, -⟩ := List.cons_eq_cons.mp hsplit
      simp only [isBalanced, beq_iff_eq] at hdepth
      exact absurd hdepth (hfirst hclosing)
    | cons first body =>
      obtain ⟨rfl, rfl⟩ := List.cons_eq_cons.mp hsplit
      exact ⟨body, closing, later, rfl, hclosing, (hbody body).symm.trans hdepth⟩
  · rintro ⟨body, closing, later, rfl, hclosing, hinner⟩
    exact ⟨token :: body, closing, later, rfl, hclosing, (hbody body).trans hinner⟩

/-- An opening parenthesis stays open if no closing one takes it, whether it was open before or is
one of the tokens. -/
theorem mem_unclosedFrom_iff {opened : List Nat} {place : Nat} {tokens : List Token} {i : Nat} :
    i ∈ unclosedFrom opened place tokens ↔
      (∃ depth, opened[depth]? = some i ∧ ¬Closes depth tokens) ∨
        ∃ n, StraysAt tokens n ∧ i = place + n := by
  induction tokens generalizing opened place with
  | nil => simp [unclosedFrom, Closes, StraysAt, List.mem_iff_getElem?]
  | cons token rest ih =>
    have hstrays : (∃ n, StraysAt (token :: rest) n ∧ i = place + n) ↔
        (token.kind = .opening ∧ ¬HasCloser rest) ∧ i = place ∨
          ∃ n, StraysAt rest n ∧ i = place + 1 + n := by
      rw [← Nat.or_exists_add_one]
      simp only [straysAt_cons_zero, straysAt_cons_add_one, Nat.add_zero, Nat.add_assoc,
        Nat.add_comm 1]
    rw [hstrays]
    rcases token.parenthesis_cases with hkind | hkind | hkind
    · have hskip : unclosedFrom opened place (token :: rest) =
          unclosedFrom opened (place + 1) rest := by
        obtain ⟨kind, text, position⟩ := token
        cases kind <;> first | rfl | cases hkind
      have hopening : token.kind ≠ .opening := fun hopening => by
        simp [isParenthesis, hopening] at hkind
      have hclosing : token.kind ≠ .closing := fun hclosing => by
        simp [isParenthesis, hclosing] at hkind
      have hcloses (depth : Nat) : Closes depth (token :: rest) ↔ Closes depth rest :=
        closes_cons_iff (isBalanced_cons hkind depth) (absurd · hclosing) rest
      simp only [hskip, ih, hcloses, hopening, false_and, false_or]
    · have hcloses (depth : Nat) : Closes depth (token :: rest) ↔ Closes (depth + 1) rest :=
        closes_cons_iff (isBalanced_opening hkind depth) (by simp [hkind]) rest
      -- The first parenthesis is the last one that is open in front of the rest.
      have hfirst : (∃ depth, (place :: opened)[depth]? = some i ∧ ¬Closes depth rest) ↔
          ¬HasCloser rest ∧ i = place ∨
            ∃ depth, opened[depth]? = some i ∧ ¬Closes (depth + 1) rest := by
        rw [← Nat.or_exists_add_one, List.getElem?_cons_zero, Option.some_inj, eq_comm, and_comm]
        rfl
      simp only [unclosedFrom, hkind, ih, hfirst, hcloses, true_and, or_assoc, or_left_comm]
    · have hcloses (depth : Nat) : Closes (depth + 1) (token :: rest) ↔ Closes depth rest :=
        closes_cons_iff (isBalanced_closing hkind depth) (fun _ => Nat.succ_ne_zero depth) rest
      rw [← Nat.or_exists_add_one (p := fun depth => _ ∧ ¬Closes depth (token :: rest))]
      simp [unclosedFrom, hkind, ih, hcloses, closes_zero_closing hkind]

/-- The parentheses that stay open are those without a partner behind them. -/
theorem mem_unclosed_iff {tokens : List Token} {i : Nat} :
    i ∈ unclosed tokens ↔ StraysAt tokens i := by
  rw [unclosed, mem_unclosedFrom_iff]
  simp

end Calculator.Token
