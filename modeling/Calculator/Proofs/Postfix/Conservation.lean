import Calculator.Proofs.Machine.Arity
import Calculator.Proofs.OperatorTable
import Calculator.Proofs.Postfix.Arrange
import Calculator.Proofs.Token.Standard

/-!
# Conservation of tokens

The conversion to postfix form drops parentheses and keeps everything else, in some order. Hence
the stack that is left at the end of a run tells how many operands and binary operators the tokens
have. Under strictness a conversion that succeeds has found a partner for every parenthesis.
-/

namespace Calculator

namespace Token

/-- Whether a token is an operand or an operator and so has its place in a postfix form. -/
def isKept (token : Token) : Bool :=
  match token.kind with
  | .operand | .operator _ => true
  | .opening | .closing => false

/-- What is an opening parenthesis has this kind. -/
theorem kind_of_isOpening {token : Token} (hopening : token.isOpening = true) :
    token.kind = .opening := by
  unfold isOpening at hopening
  split at hopening
  · assumption
  · cases hopening

/-- What blocks an operator is no parenthesis. -/
theorem isOpening_of_isBlockedBy {op : Operator} {top : Token}
    (hblocked : Postfix.isBlockedBy op top = true) : top.isOpening = false := by
  obtain ⟨kind, text, position⟩ := top
  cases kind <;> simp_all [Postfix.isBlockedBy, operator?, isOpening]

/-- Whether a token is an operand. -/
def isOperand (token : Token) : Bool :=
  token.kind == .operand

/-- Whether a token is an operator other than negation. -/
def isBinary (token : Token) : Bool :=
  match token.kind with
  | .operator op => op != Operator.negation
  | _ => false

/-- Whether every closing parenthesis has a partner and every opening one, too, with `depth`
opening parentheses before. -/
def isBalanced (depth : Nat) : List Token → Bool
  | [] => depth == 0
  | token :: rest =>
    match token.kind, depth with
    | .opening, _ => isBalanced (depth + 1) rest
    | .closing, 0 => false
    | .closing, depth + 1 => isBalanced depth rest
    | _, _ => isBalanced depth rest

end Token

namespace Postfix

variable {strict : Bool} {pending tokens form : List Token}

/-- The conversion drops the closing parentheses and the opening ones that they take, and nothing
else. -/
theorem Arranges.exists_partners (harranges : Arranges strict pending tokens form) :
    ∃ partners, (∀ partner ∈ partners, partner.isOpening = true) ∧
      (form ++ partners).Perm (pending ++ tokens.filter (·.kind != .closing)) := by
  induction harranges with
  | @done pending hpending => exact ⟨[], nofun, List.Perm.refl _⟩
  | @operand pending rest form token hkind hrest ih =>
    obtain ⟨partners, hpartners, hperm⟩ := ih
    refine ⟨partners, hpartners, ?_⟩
    rw [List.filter_cons_of_pos (by simp [hkind])]
    exact (hperm.cons token).trans List.perm_middle.symm
  | @opening pending rest form token hkind hrest ih =>
    obtain ⟨partners, hpartners, hperm⟩ := ih
    refine ⟨partners, hpartners, ?_⟩
    rw [List.filter_cons_of_pos (by simp [hkind])]
    exact hperm.trans List.perm_middle.symm
  | @closing group below rest form token partner hkind hgroup hpartner hrest ih =>
    obtain ⟨partners, hpartners, hperm⟩ := ih
    refine ⟨partner :: partners, List.forall_mem_cons.mpr ⟨hpartner, hpartners⟩, ?_⟩
    rw [List.filter_cons_of_neg (by simp [hkind]), List.append_assoc, List.append_assoc]
    refine List.Perm.append_left group (List.perm_middle.trans ?_)
    rw [List.cons_append]
    exact hperm.cons partner
  | @stray pending rest form token hkind hstrict hpending hrest ih =>
    obtain ⟨partners, hpartners, hperm⟩ := ih
    refine ⟨partners, hpartners, ?_⟩
    rw [List.filter_cons_of_neg (by simp [hkind]), List.append_assoc]
    exact hperm.append_left pending
  | @operator blocking below rest form token op hkind hblocking hbelow hrest ih =>
    obtain ⟨partners, hpartners, hperm⟩ := ih
    refine ⟨partners, hpartners, ?_⟩
    rw [List.filter_cons_of_pos (by simp [hkind]), List.append_assoc, List.append_assoc]
    exact (hperm.trans List.perm_middle.symm).append_left blocking

/-- The conversion keeps all tokens but parentheses. -/
theorem Arranges.perm (harranges : Arranges strict pending tokens form) :
    (form.filter Token.isKept).Perm ((pending ++ tokens).filter Token.isKept) := by
  obtain ⟨partners, hpartners, hperm⟩ := harranges.exists_partners
  have hdropped : partners.filter Token.isKept = [] := by
    rw [List.filter_eq_nil_iff]
    intro partner hpartner
    simp [Token.isKept, Token.kind_of_isOpening (hpartners partner hpartner)]
  have hkept : (tokens.filter (·.kind != .closing)).filter Token.isKept =
      tokens.filter Token.isKept := by
    rw [List.filter_filter]
    refine List.filter_congr fun token _ => ?_
    obtain ⟨kind, text, position⟩ := token
    cases kind <;> rfl
  have hfilter := hperm.filter Token.isKept
  rwa [List.filter_append, List.filter_append, hdropped, hkept, List.append_nil,
    ← List.filter_append] at hfilter

/-- Under strictness a conversion that succeeds has balanced parentheses. -/
theorem Arranges.isBalanced (harranges : Arranges true pending tokens form) :
    Token.isBalanced (pending.countP (·.isOpening)) tokens = true := by
  induction harranges with
  | done hpending =>
    rw [Token.isBalanced, List.countP_eq_zero.mpr (by simpa using hpending)]
    rfl
  | operand hkind hrest ih => simpa only [Token.isBalanced, hkind] using ih
  | @opening pending rest form token hkind hrest ih =>
    have hopening : token.isOpening = true := by simp [Token.isOpening, hkind]
    rw [List.countP_cons_of_pos hopening] at ih
    simpa only [Token.isBalanced, hkind] using ih
  | @closing group below rest form token partner hkind hgroup hpartner hrest ih =>
    have hnone : group.countP (·.isOpening) = 0 := List.countP_eq_zero.mpr (by simpa using hgroup)
    rw [List.countP_append, List.countP_cons_of_pos hpartner, hnone, Nat.zero_add]
    simpa only [Token.isBalanced, hkind] using ih
  | stray hkind hstrict => cases hstrict
  | @operator blocking below rest form token op hkind hblocking hbelow hrest ih =>
    have hopening : ¬token.isOpening = true := by simp [Token.isOpening, hkind]
    have hnone : blocking.countP (·.isOpening) = 0 :=
      List.countP_eq_zero.mpr fun top htop => by
        simp [Token.isOpening_of_isBlockedBy (hblocking top htop)]
    rw [List.countP_append, hnone, Nat.zero_add]
    rw [List.countP_cons_of_neg hopening] at ih
    simpa only [Token.isBalanced, hkind] using ih

end Postfix

namespace Token

variable {α : Type}

/-- A standard token is known by its kind: what it takes off the stack and whether it is an operand
or a binary operator go together. -/
theorem IsStandard.arity_add {token : Token} (hstandard : token.IsStandard) :
    token.arity + (if token.isOperand = true then 1 else 0) =
      (if token.isKept = true then 1 else 0) + if token.isBinary = true then 1 else 0 := by
  obtain ⟨kind, text, position⟩ := token
  cases kind with
  | operand | opening | closing => rfl
  | operator op =>
    rcases Operator.mem_table_iff.mp (hstandard op rfl) with rfl | ⟨operation, rfl⟩
    · rfl
    · cases operation <;> rfl

/-- What standard tokens take off the stack together. -/
theorem sum_arity_add {tokens : List Token} (hstandard : ∀ token ∈ tokens, token.IsStandard) :
    (tokens.map arity).sum + tokens.countP isOperand =
      tokens.countP isKept + tokens.countP isBinary := by
  induction tokens with
  | nil => rfl
  | cons token rest ih =>
    obtain ⟨htoken, hrest⟩ := List.forall_mem_cons.mp hstandard
    have hone := htoken.arity_add
    have hmore := ih hrest
    simp only [List.map_cons, List.sum_cons, List.countP_cons]
    omega

/-- Operands have their place in a postfix form. -/
theorem isKept_of_isOperand {token : Token} (hoperand : token.isOperand = true) :
    token.isKept = true := by
  obtain ⟨kind, text, position⟩ := token
  cases kind <;> first | rfl | cases hoperand

/-- Binary operators have their place in a postfix form. -/
theorem isKept_of_isBinary {token : Token} (hbinary : token.isBinary = true) :
    token.isKept = true := by
  obtain ⟨kind, text, position⟩ := token
  cases kind <;> first | rfl | cases hbinary

/-- Dropping parentheses does not change the number of other tokens. -/
theorem countP_filter_isKept {p : Token → Bool}
    (hkept : ∀ {token : Token}, p token = true → token.isKept = true) (tokens : List Token) :
    (tokens.filter isKept).countP p = tokens.countP p := by
  rw [List.countP_filter]
  refine List.countP_congr fun token _ => ?_
  simpa using hkept

/-- A token that gives a known term has its place in a postfix form. -/
theorem isKept_of_known {source : Variables α} {token : Token}
    (hknown : (Term.ofToken source token).Known) : token.isKept = true := by
  obtain ⟨kind, text, position⟩ := token
  cases kind with
  | operand | operator => rfl
  | opening | closing => cases hknown

end Token

/-- A run over the postfix form of standard tokens leaves as many values as there are operands more
than binary operators. -/
theorem Postfix.length_run_form {α : Type} {A : Arithmetic α} {source : Variables α}
    {strict : Bool} {tokens form : List Token} {final : Stack α}
    (hstandard : ∀ token ∈ tokens, token.IsStandard)
    (harrange : arrange strict [] tokens = .ok form)
    (hrun : Stack.run A [] (form.map (Term.ofToken source)) = .ok final) :
    final.length + tokens.countP Token.isBinary = tokens.countP Token.isOperand := by
  have hperm := (arranges_of_arrange harrange).perm
  have hkept : ∀ token ∈ form, token.isKept = true := fun token htoken =>
    Token.isKept_of_known (Stack.known_of_run hrun _ (List.mem_map_of_mem htoken))
  have hlength := (Stack.length_run hrun).2
  rw [List.nil_append, List.filter_eq_self.mpr hkept] at hperm
  rw [Term.arities_ofToken, List.length_map, List.length_nil] at hlength
  have hsum := Token.sum_arity_add fun token htoken =>
    hstandard token (List.mem_of_mem_filter (hperm.mem_iff.mp htoken))
  rw [List.countP_eq_length.mpr hkept] at hsum
  have hbinary : form.countP Token.isBinary = tokens.countP Token.isBinary := by
    rw [hperm.countP_eq, Token.countP_filter_isKept Token.isKept_of_isBinary]
  have hoperand : form.countP Token.isOperand = tokens.countP Token.isOperand := by
    rw [hperm.countP_eq, Token.countP_filter_isKept Token.isKept_of_isOperand]
  omega

end Calculator
