import Calculator.Proofs.Postfix.Conservation

/-!
# Partners of parentheses

Two parentheses are partners if the tokens between them are balanced. A parenthesis without a
partner is stray. The conversion to postfix form knows which parentheses are open; here the open
ones are described by the tokens that were read, whatever the conversion does with them.
-/

namespace Calculator.Token

/-- A closing parenthesis behind these tokens has a partner among them. -/
def HasOpener (before : List Token) : Prop :=
  ∃ earlier opening body, before = earlier ++ opening :: body ∧ opening.kind = .opening ∧
    isBalanced 0 body = true

/-- An opening parenthesis in front of these tokens has a partner among them. -/
def HasCloser (after : List Token) : Prop :=
  ∃ body closing later, after = body ++ closing :: later ∧ closing.kind = .closing ∧
    isBalanced 0 body = true

/-- Some closing parenthesis has no partner. -/
def HasStrayClosing (tokens : List Token) : Prop :=
  ∃ before closing after, tokens = before ++ closing :: after ∧ closing.kind = .closing ∧
    ¬HasOpener before

/-- Some opening parenthesis has no partner. -/
def HasStrayOpening (tokens : List Token) : Prop :=
  ∃ before opening after, tokens = before ++ opening :: after ∧ opening.kind = .opening ∧
    ¬HasCloser after

/-- The token is the leftmost closing parenthesis without a partner. -/
def IsFirstStrayClosing (tokens : List Token) (closing : Token) : Prop :=
  ∃ before after, tokens = before ++ closing :: after ∧ closing.kind = .closing ∧
    ¬HasOpener before ∧ ¬HasStrayClosing before

/-- The token is the rightmost opening parenthesis without a partner. -/
def IsLastStrayOpening (tokens : List Token) (opening : Token) : Prop :=
  ∃ before after, tokens = before ++ opening :: after ∧ opening.kind = .opening ∧
    ¬HasCloser after ∧ ¬HasStrayOpening after

/-- Whether a token is a parenthesis. -/
def isParenthesis (token : Token) : Bool :=
  match token.kind with
  | .opening | .closing => true
  | .operand | .operator _ => false

/-- A token other than a parenthesis does not change the depth. -/
theorem isBalanced_cons {token : Token} (hkind : token.isParenthesis = false) (depth : Nat)
    (rest : List Token) : isBalanced depth (token :: rest) = isBalanced depth rest := by
  obtain ⟨kind, text, position⟩ := token
  cases kind <;> first | rfl | cases hkind

/-- An opening parenthesis makes the rest deeper. -/
theorem isBalanced_opening {token : Token} (hkind : token.kind = .opening) (depth : Nat)
    (rest : List Token) : isBalanced depth (token :: rest) = isBalanced (depth + 1) rest := by
  simp only [isBalanced, hkind]

/-- A closing parenthesis takes away from the depth of what stands before it. -/
theorem isBalanced_closing {token : Token} (hkind : token.kind = .closing) (depth : Nat)
    (rest : List Token) : isBalanced (depth + 1) (token :: rest) = isBalanced depth rest := by
  simp only [isBalanced, hkind]

/-- Without open parentheses nothing can be closed. -/
theorem isBalanced_zero_closing {token : Token} (hkind : token.kind = .closing)
    (rest : List Token) : isBalanced 0 (token :: rest) = false := by
  simp only [isBalanced, hkind]

/-- A token is no parenthesis or is an opening or a closing one. -/
theorem parenthesis_cases (token : Token) :
    token.isParenthesis = false ∨ token.kind = .opening ∨ token.kind = .closing := by
  obtain ⟨kind, text, position⟩ := token
  cases kind <;> simp [isParenthesis]

/-- Tokens that close `closed` parentheses leave the others to the rest. -/
theorem isBalanced_append {body : List Token} {closed : Nat}
    (hbody : isBalanced closed body = true) (depth : Nat) (rest : List Token) :
    isBalanced (closed + depth) (body ++ rest) = isBalanced depth rest := by
  induction body generalizing closed with
  | nil =>
    obtain rfl : closed = 0 := by simpa [isBalanced] using hbody
    rw [Nat.zero_add, List.nil_append]
  | cons token body ih =>
    rw [List.cons_append]
    rcases token.parenthesis_cases with hkind | hkind | hkind
    · rw [isBalanced_cons hkind] at hbody ⊢
      exact ih hbody
    · rw [isBalanced_opening hkind] at hbody ⊢
      rw [← ih hbody, Nat.add_right_comm]
    · cases closed with
      | zero =>
        rw [isBalanced_zero_closing hkind] at hbody
        cases hbody
      | succ closed =>
        rw [isBalanced_closing hkind] at hbody
        rw [Nat.add_right_comm, isBalanced_closing hkind]
        exact ih hbody

/-- Behind balanced tokens the rest is balanced as it is alone. -/
theorem isBalanced_zero_append {body : List Token} (hbody : isBalanced 0 body = true)
    (rest : List Token) : isBalanced 0 (body ++ rest) = isBalanced 0 rest := by
  have happend := isBalanced_append hbody 0 rest
  rwa [Nat.zero_add] at happend

/-- A closing parenthesis behind balanced tokens leaves the whole unbalanced. -/
theorem isBalanced_append_closing {body later : List Token} {closing : Token}
    (hbody : isBalanced 0 body = true) (hclosing : closing.kind = .closing) :
    isBalanced 0 (body ++ closing :: later) = false := by
  rw [isBalanced_zero_append hbody, isBalanced_zero_closing hclosing]

/-- Tokens close only one number of parentheses. -/
theorem eq_of_isBalanced {body : List Token} {closed depth : Nat}
    (hbody : isBalanced closed body = true) (hsame : isBalanced depth body = true) :
    closed = depth := by
  induction body generalizing closed depth with
  | nil =>
    simp only [isBalanced, beq_iff_eq] at hbody hsame
    rw [hbody, hsame]
  | cons token body ih =>
    rcases token.parenthesis_cases with hkind | hkind | hkind
    · rw [isBalanced_cons hkind] at hbody hsame
      exact ih hbody hsame
    · rw [isBalanced_opening hkind] at hbody hsame
      exact Nat.succ_injective (ih hbody hsame)
    · cases closed with
      | zero => simp [isBalanced_zero_closing hkind] at hbody
      | succ closed =>
        cases depth with
        | zero => simp [isBalanced_zero_closing hkind] at hsame
        | succ depth =>
          rw [isBalanced_closing hkind] at hbody hsame
          rw [ih hbody hsame]

/-- What stands at the end of balanced tokens is balanced at some depth. -/
theorem exists_isBalanced_of_append {first rest : List Token} {depth : Nat}
    (hbalanced : isBalanced depth (first ++ rest) = true) :
    ∃ inner, isBalanced inner rest = true := by
  induction first generalizing depth with
  | nil => exact ⟨depth, hbalanced⟩
  | cons token first ih =>
    rw [List.cons_append] at hbalanced
    rcases token.parenthesis_cases with hkind | hkind | hkind
    · rw [isBalanced_cons hkind] at hbalanced
      exact ih hbalanced
    · rw [isBalanced_opening hkind] at hbalanced
      exact ih hbalanced
    · cases depth with
      | zero => simp [isBalanced_zero_closing hkind] at hbalanced
      | succ depth =>
        rw [isBalanced_closing hkind] at hbalanced
        exact ih hbalanced

/-- No parenthesis is open behind balanced tokens. -/
theorem not_hasOpener_of_isBalanced {before : List Token} (hbefore : isBalanced 0 before = true) :
    ¬HasOpener before := by
  rintro ⟨earlier, opening, body, rfl, hopening, hbody⟩
  obtain ⟨depth, hdepth⟩ := exists_isBalanced_of_append hbefore
  rw [isBalanced_opening hopening] at hdepth
  exact absurd (eq_of_isBalanced hbody hdepth) (Nat.zero_ne_add_one depth)

/-- Balanced tokens close nothing that stands before them. -/
theorem not_hasCloser_of_isBalanced {after : List Token} (hafter : isBalanced 0 after = true) :
    ¬HasCloser after := by
  rintro ⟨body, closing, later, rfl, hclosing, hbody⟩
  rw [isBalanced_append_closing hbody hclosing] at hafter
  cases hafter

/-- Tokens that close more than `inner` parentheses close the next one at some place, behind which
the others are closed. -/
theorem exists_closer {after : List Token} {inner depth : Nat}
    (hafter : isBalanced (inner + (depth + 1)) after = true) :
    ∃ body closing later, after = body ++ closing :: later ∧ closing.kind = .closing ∧
      isBalanced inner body = true ∧ isBalanced depth later = true := by
  induction after generalizing inner with
  | nil => simp [isBalanced] at hafter
  | cons token after ih =>
    rcases token.parenthesis_cases with hkind | hkind | hkind
    · rw [isBalanced_cons hkind] at hafter
      obtain ⟨body, closing, later, rfl, hclosing, hbody, hlater⟩ := ih hafter
      refine ⟨token :: body, closing, later, rfl, hclosing, ?_, hlater⟩
      rwa [isBalanced_cons hkind]
    · rw [isBalanced_opening hkind, Nat.add_right_comm] at hafter
      obtain ⟨body, closing, later, rfl, hclosing, hbody, hlater⟩ := ih hafter
      refine ⟨token :: body, closing, later, rfl, hclosing, ?_, hlater⟩
      rwa [isBalanced_opening hkind]
    · cases inner with
      | zero =>
        rw [Nat.zero_add, isBalanced_closing hkind] at hafter
        exact ⟨[], token, after, rfl, hkind, rfl, hafter⟩
      | succ inner =>
        rw [Nat.add_right_comm, isBalanced_closing hkind] at hafter
        obtain ⟨body, closing, later, rfl, hclosing, hbody, hlater⟩ := ih hafter
        refine ⟨token :: body, closing, later, rfl, hclosing, ?_, hlater⟩
        rwa [isBalanced_closing hkind]

/-- In balanced tokens every opening parenthesis has a partner. -/
theorem not_hasStrayOpening_of_isBalanced {tokens : List Token}
    (htokens : isBalanced 0 tokens = true) : ¬HasStrayOpening tokens := by
  rintro ⟨before, opening, after, rfl, hopening, hstray⟩
  obtain ⟨depth, hdepth⟩ := exists_isBalanced_of_append htokens
  rw [isBalanced_opening hopening, ← Nat.zero_add (depth + 1)] at hdepth
  obtain ⟨body, closing, later, hsplit, hclosing, hbody, -⟩ := exists_closer hdepth
  exact hstray ⟨body, closing, later, hsplit, hclosing, hbody⟩

/-- One more token adds a stray closing parenthesis only if it is one. -/
theorem hasStrayClosing_concat {read : List Token} {token : Token} :
    HasStrayClosing (read ++ [token]) ↔
      HasStrayClosing read ∨ token.kind = .closing ∧ ¬HasOpener read := by
  constructor
  · rintro ⟨before, closing, after, hsplit, hclosing, hstray⟩
    rcases List.eq_nil_or_concat after with rfl | ⟨later, last, rfl⟩
    · obtain ⟨rfl, rfl⟩ := List.append_singleton_inj.mp hsplit
      exact .inr ⟨hclosing, hstray⟩
    · rw [List.concat_eq_append, ← List.cons_append, ← List.append_assoc] at hsplit
      obtain ⟨rfl, rfl⟩ := List.append_singleton_inj.mp hsplit
      exact .inl ⟨before, closing, later, rfl, hclosing, hstray⟩
  · rintro (⟨before, closing, after, rfl, hclosing, hstray⟩ | ⟨hclosing, hstray⟩)
    · exact ⟨before, closing, after ++ [token], by simp, hclosing, hstray⟩
    · exact ⟨read, token, [], rfl, hclosing, hstray⟩

/-- Which parentheses are open behind tokens that were read, the last one first: behind each of
them, up to the next one, the tokens are balanced. -/
inductive Opens : List Token → List Token → Prop
  | balanced {read : List Token} (hread : isBalanced 0 read = true) : Opens [] read
  | opening {outer read body : List Token} {opening : Token} (hread : Opens outer read)
      (hopening : opening.kind = .opening) (hbody : isBalanced 0 body = true) :
      Opens (opening :: outer) (read ++ opening :: body)

namespace Opens

variable {outer read body : List Token} {token : Token}

/-- Balanced tokens open and close nothing. -/
theorem append (hopens : Opens outer read) (hbody : isBalanced 0 body = true) :
    Opens outer (read ++ body) := by
  cases hopens with
  | balanced hread => exact .balanced (by rw [isBalanced_zero_append hread, hbody])
  | opening hread hopening hinner =>
    rw [List.append_assoc, List.cons_append]
    exact .opening hread hopening (by rw [isBalanced_zero_append hinner, hbody])

/-- A token other than a parenthesis opens and closes nothing. -/
theorem concat (hopens : Opens outer read) (hkind : token.isParenthesis = false) :
    Opens outer (read ++ [token]) :=
  hopens.append (by rw [isBalanced_cons hkind]; rfl)

/-- A closing parenthesis closes the one that was opened last. -/
theorem concat_closing {opening : Token} (hopens : Opens (opening :: outer) read)
    (hclosing : token.kind = .closing) : Opens outer (read ++ [token]) := by
  obtain _ | ⟨hread, hopening, hbody⟩ := hopens
  rw [List.append_assoc]
  refine hread.append ?_
  rw [List.cons_append, isBalanced_opening hopening, isBalanced_append hbody 1,
    isBalanced_closing hclosing]
  rfl

/-- What is open can be closed. -/
theorem hasOpener {opening : Token} (hopens : Opens (opening :: outer) read) :
    HasOpener read := by
  obtain _ | ⟨hread, hopening, hbody⟩ := hopens
  exact ⟨_, opening, _, rfl, hopening, hbody⟩

/-- Where nothing is open the tokens are balanced. -/
theorem isBalanced (hopens : Opens [] read) : isBalanced 0 read = true := by
  obtain ⟨hread⟩ := hopens
  exact hread

end Opens

end Calculator.Token
