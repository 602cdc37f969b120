import Calculator.Proofs.Grammar.Infix
import Calculator.Proofs.Postfix.Arrange

/-!
# Conversion of infix expressions

The conversion reads an expression from left to right. It puts some of its tokens out and keeps
its unfinished operators pending, above what was pending before. A minus sign also releases the
operators of the chain of `^` and minus signs in which it stands, although their operands are yet
to come. This file says which tokens are released and which are pending, expression by expression.
-/

namespace Calculator

/-- The precedence of the operators that an expression of a rank may leave unfinished. -/
def Rank.precedence : Rank → Nat
  | sum => 2
  | product => 3
  | unary | power | atom => 4

/-- Whether expressions of a rank hold together by `^` and minus signs only. -/
def Rank.isChain : Rank → Bool
  | sum | product => false
  | unary | power | atom => true

/-- Tighter ranks have higher precedences. -/
theorem Rank.precedence_le {rank tight : Rank} (htight : rank.tighter? = some tight) :
    rank.precedence ≤ tight.precedence := by
  cases rank <;> cases htight <;> decide

/-- Ranks tighter than those of chains are ranks of chains. -/
theorem Rank.isChain_of_tighter? {rank tight : Rank} (htight : rank.tighter? = some tight)
    (hchain : rank.isChain = true) : tight.isChain = true := by
  cases rank <;> cases htight <;> first | rfl | exact hchain

/-- What stands behind a minus sign or behind `^` holds together by `^` and minus signs. -/
theorem Rank.isChain_signed {chained : Bool} : (Rank.signed chained).isChain = true := by
  cases chained <;> rfl

/-- The operators that it may leave unfinished have the highest precedence. -/
theorem Rank.precedence_signed {chained : Bool} : (Rank.signed chained).precedence = 4 := by
  cases chained <;> rfl

/-- The operators of sums and products group to the left and have the precedence of the rank,
which is less than that of the tighter ranks. -/
theorem BinaryOperation.operator_of_rank? {operation : BinaryOperation} {rank tight : Rank}
    (hrank : operation.rank? = some rank) (htight : rank.tighter? = some tight) :
    operation.operator.precedence = rank.precedence ∧
      operation.operator.associativity = .left ∧ rank.precedence < tight.precedence := by
  cases operation <;> cases hrank <;> cases htight <;> decide

/-- A chain has `^` and minus signs only, so that there is none around a sum or a product. -/
theorem BinaryOperation.eq_nil_of_rank? {operation : BinaryOperation} {rank : Rank}
    (hoperation : operation.rank? = some rank) {chain : List Token}
    (hrank : rank.isChain = true ∨ chain = []) : chain = [] := by
  refine hrank.resolve_left ?_
  cases operation <;> cases hoperation <;> decide

namespace Infix

variable {chained : Bool} {rank : Rank}

/-- What the conversion has put out and what it keeps pending, last pushed first. -/
structure Arranged where
  released : List Token
  pending : List Token

/-- What the conversion makes of an expression behind the pending operators of its chain. -/
def arranged : {rank : Rank} → Infix chained rank → List Token → Nat → Arranged
  | _, operand word _, chain, start => ⟨[⟨.operand, word.text, start⟩], chain⟩
  | _, group gap body _, chain, start =>
    let inner := body.arranged [] (behind start gap)
    ⟨inner.released ++ inner.pending, chain⟩
  | _, lift _ body, chain, start => body.arranged chain start
  | _, power base gap exponent, chain, start =>
    let inner := exponent.arranged
      (BinaryOperation.power.token (start + base.width) :: chain)
      (behind (start + base.width) gap)
    ⟨(base.arranged chain start).released ++ inner.released, inner.pending⟩
  | _, negation gap body, chain, start =>
    let inner := body.arranged [Token.minus Operator.negation start] (behind start gap)
    ⟨chain ++ inner.released, inner.pending⟩
  | _, binary _ left operation _ gap right, _, start =>
    let first := left.arranged [] start
    let second := right.arranged [] (behind (start + left.width) gap)
    ⟨first.released ++ first.pending ++ second.released,
      second.pending ++ [operation.token (start + left.width)]⟩

/-- An atom leaves nothing pending of its own. -/
theorem pending_atom (e : Infix chained .atom) (chain : List Token) (start : Nat) :
    (e.arranged chain start).pending = chain := by
  cases e with
  | operand => rfl
  | group => rfl
  | lift htight => cases htight
  | binary htight => cases htight

/-- What an atom puts out does not depend on what is pending. -/
theorem released_atom (e : Infix chained .atom) (chain : List Token) (start : Nat) :
    (e.arranged chain start).released = (e.arranged [] start).released := by
  cases e with
  | operand => rfl
  | group => rfl
  | lift htight => cases htight
  | binary htight => cases htight

/-- The postfix form that the conversion makes of an expression and its chain. -/
def arrangement (e : Infix chained rank) (chain : List Token) (start : Nat) : List Token :=
  (e.arranged chain start).released ++ (e.arranged chain start).pending

/-- An operand stands in front of its chain. -/
@[simp] theorem arrangement_operand (word : Word) (gap : Blanks) (chain : List Token)
    (start : Nat) :
    (operand word gap : Infix chained .atom).arrangement chain start =
      ⟨.operand, word.text, start⟩ :: chain := rfl

/-- A group is arranged by itself, in front of its chain. -/
@[simp] theorem arrangement_group (gap : Blanks) (body : Infix chained .sum) (after : Blanks)
    (chain : List Token) (start : Nat) :
    (group gap body after).arrangement chain start =
      body.arrangement [] (behind start gap) ++ chain := rfl

/-- An expression is arranged alike at every rank. -/
@[simp] theorem arrangement_lift {tight : Rank} (htight : rank.tighter? = some tight)
    (body : Infix chained tight) (chain : List Token) (start : Nat) :
    (lift htight body).arrangement chain start = body.arrangement chain start := rfl

/-- A power is its base and its exponent, whose chain begins with the operator. -/
@[simp] theorem arrangement_power (base : Infix chained .atom) (gap : Blanks)
    (exponent : Infix chained (.signed chained)) (chain : List Token) (start : Nat) :
    (power base gap exponent).arrangement chain start =
      base.arrangement [] start ++ exponent.arrangement
        (BinaryOperation.power.token (start + base.width) :: chain)
        (behind (start + base.width) gap) := by
  simp only [arrangement, arranged, pending_atom, List.append_nil, List.append_assoc]
  rw [base.released_atom]

/-- A negation puts out its chain first and begins a chain of its own. -/
@[simp] theorem arrangement_negation (gap : Blanks) (body : Infix chained (.signed chained))
    (chain : List Token) (start : Nat) :
    (negation gap body).arrangement chain start =
      chain ++ body.arrangement [Token.minus Operator.negation start] (behind start gap) := by
  simp only [arrangement, arranged, List.append_assoc]

/-- A binary expression is its two sides, each by itself, and then its operator. -/
@[simp] theorem arrangement_binary {tight : Rank} (htight : rank.tighter? = some tight)
    (left : Infix chained rank) (operation : BinaryOperation)
    (hrank : operation.rank? = some rank) (gap : Blanks) (right : Infix chained tight)
    (chain : List Token) (start : Nat) :
    (binary htight left operation hrank gap right).arrangement chain start =
      left.arrangement [] start ++ right.arrangement [] (behind (start + left.width) gap) ++
        [operation.token (start + left.width)] := by
  simp only [arrangement, arranged, List.append_assoc]

end Infix

namespace Token

/-- Whether a pending token is an operator of at least the given precedence. -/
def Binds (precedence : Nat) (top : Token) : Prop :=
  ∃ op, top.operator? = some op ∧ precedence ≤ op.precedence

/-- Whether a pending token is `^` or negation. -/
def IsLink (top : Token) : Prop :=
  ∃ op, top.operator? = some op ∧ op.precedence = 4

/-- Whether the last pending token is not an operator of at least the given precedence. -/
def Yields (precedence : Nat) (pending : List Token) : Prop :=
  ∀ top ∈ pending.head?, ∀ op, top.operator? = some op → op.precedence < precedence

/-- A link binds as tightly as operators can. -/
theorem IsLink.binds {top : Token} (hlink : top.IsLink) : top.Binds 4 := by
  obtain ⟨op, hop, hprecedence⟩ := hlink
  exact ⟨op, hop, hprecedence.ge⟩

/-- The operator of a power is a link. -/
theorem isLink_power (position : Nat) : (BinaryOperation.power.token position).IsLink :=
  ⟨_, rfl, rfl⟩

/-- A minus sign that negates is a link. -/
theorem isLink_minus (position : Nat) : (minus Operator.negation position).IsLink :=
  ⟨_, rfl, rfl⟩

/-- What binds is no parenthesis. -/
theorem Binds.isOpening {precedence : Nat} {top : Token} (hbinds : top.Binds precedence) :
    top.isOpening = false := by
  obtain ⟨op, hop, -⟩ := hbinds
  obtain ⟨kind, text, position⟩ := top
  cases kind <;> simp_all [operator?, Token.isOpening]

/-- An operator that groups to the left is blocked by what binds as tightly. -/
theorem Binds.isBlockedBy {op : Operator} {top : Token} (hleft : op.associativity = .left)
    (hbinds : top.Binds op.precedence) : Postfix.isBlockedBy op top = true := by
  obtain ⟨other, hother, hprecedence⟩ := hbinds
  simp [Postfix.isBlockedBy, hother, Operator.waitsFor, hleft, hprecedence]

/-- An operator is not blocked by what binds less tightly. -/
theorem Yields.isBlockedBy {op : Operator} {pending : List Token}
    (hyields : Yields op.precedence pending) :
    ∀ top ∈ pending.head?, Postfix.isBlockedBy op top = false := by
  intro top htop
  cases hother : top.operator? with
  | none => simp [Postfix.isBlockedBy, hother]
  | some other =>
    have hprecedence := hyields top htop other hother
    cases hside : op.associativity <;>
      simp [Postfix.isBlockedBy, hother, Operator.waitsFor, hside] <;> omega

/-- The operator `^` groups to the right, so that links do not block it. -/
theorem Yields.isBlockedBy_power {chain below : List Token}
    (hchain : ∀ top ∈ chain, top.IsLink) (hbelow : Yields 4 below) :
    ∀ top ∈ (chain ++ below).head?,
      Postfix.isBlockedBy BinaryOperation.power.operator top = false := by
  cases chain with
  | nil => exact hbelow.isBlockedBy
  | cons link chain =>
    obtain ⟨op, hop, hprecedence⟩ := hchain link List.mem_cons_self
    simp [Postfix.isBlockedBy, hop, Operator.waitsFor, BinaryOperation.operator, hprecedence]

/-- A binary operator yields to every precedence higher than its own. -/
theorem yields_operation {operation : BinaryOperation} {precedence : Nat}
    (hlt : operation.operator.precedence < precedence) (position : Nat) (below : List Token) :
    Yields precedence (operation.token position :: below) := by
  intro top htop op hop
  obtain rfl : operation.token position = top := by simpa using htop
  obtain rfl : operation.operator = op := Option.some.inj hop
  exact hlt

/-- A higher precedence is not reached either. -/
theorem Yields.mono {precedence higher : Nat} {pending : List Token}
    (hyields : Yields precedence pending) (hle : precedence ≤ higher) :
    Yields higher pending := fun top htop op hop =>
  (hyields top htop op hop).trans_le hle

end Token

namespace Infix

variable {chained : Bool} {rank : Rank}

/-- What an expression leaves pending binds at least as tightly as its rank. -/
theorem binds_pending (e : Infix chained rank) {chain : List Token}
    (hchain : ∀ top ∈ chain, top.IsLink) (start : Nat) :
    ∀ top ∈ (e.arranged chain start).pending, top.Binds rank.precedence := by
  induction e generalizing chain start with
  | operand => exact fun top htop => (hchain top htop).binds
  | group => exact fun top htop => (hchain top htop).binds
  | lift htight body ih =>
    intro top htop
    obtain ⟨op, hop, hprecedence⟩ := ih hchain start top htop
    exact ⟨op, hop, (Rank.precedence_le htight).trans hprecedence⟩
  | power base gap exponent ihbase ihexponent =>
    have hlinks : ∀ top ∈ BinaryOperation.power.token (start + base.width) :: chain,
        top.IsLink := List.forall_mem_cons.mpr ⟨Token.isLink_power _, hchain⟩
    have hpending := ihexponent hlinks (behind (start + base.width) gap)
    rwa [Rank.precedence_signed] at hpending
  | negation gap body ih =>
    have hlinks : ∀ top ∈ [Token.minus Operator.negation start], top.IsLink := by
      simpa using Token.isLink_minus start
    have hpending := ih hlinks (behind start gap)
    rwa [Rank.precedence_signed] at hpending
  | binary htight left operation hrank gap right ihleft ihright =>
    obtain ⟨hprecedence, -, htighter⟩ := BinaryOperation.operator_of_rank? hrank htight
    intro top htop
    rcases List.mem_append.mp htop with htop | htop
    · obtain ⟨op, hop, hbinds⟩ := ihright (List.forall_mem_nil _) _ top htop
      exact ⟨op, hop, htighter.le.trans hbinds⟩
    · rw [List.mem_singleton] at htop
      exact ⟨operation.operator, by rw [htop]; rfl, hprecedence.ge⟩

/-- What an expression leaves pending has no parenthesis. -/
theorem isOpening_pending (e : Infix chained .sum) (start : Nat) :
    ∀ top ∈ (e.arranged [] start).pending, top.isOpening = false := fun top htop =>
  (e.binds_pending (List.forall_mem_nil _) start top htop).isOpening

/-- The conversion of an expression puts its released tokens out and goes on with its pending
ones. -/
theorem arrange_tokens (e : Infix chained rank) (strict : Bool) {chain below : List Token}
    (hchain : ∀ top ∈ chain, top.IsLink) (hrank : rank.isChain = true ∨ chain = [])
    (hbelow : Token.Yields rank.precedence below) (start : Nat) (rest : List Token) :
    Postfix.arrange strict (chain ++ below) (e.tokens Operator.negation start ++ rest) =
      ((e.arranged chain start).released ++ ·) <$>
        Postfix.arrange strict ((e.arranged chain start).pending ++ below) rest := by
  induction e generalizing chain below start rest with
  | operand word gap =>
    exact Postfix.arrange_operand rfl
  | group gap body after ih =>
    have hopen : Token.Yields Rank.sum.precedence
        (⟨.opening, String.singleton '(', start⟩ :: (chain ++ below)) := by
      simp [Token.Yields, Token.operator?]
    have hbody := ih (List.forall_mem_nil _) (.inr rfl) hopen (behind start gap)
      (⟨.closing, String.singleton ')', behind start gap + body.width⟩ :: rest)
    simp only [tokens, List.cons_append, List.append_assoc, List.nil_append, arranged] at hbody ⊢
    rw [Postfix.arrange_opening rfl, hbody,
      Postfix.arrange_closing rfl (body.isOpening_pending _) rfl]
    simp [Functor.map_map]
  | lift htight body ih =>
    exact ih hchain (hrank.imp_left (Rank.isChain_of_tighter? htight))
      (hbelow.mono (Rank.precedence_le htight)) start rest
  | power base gap exponent ihbase ihexponent =>
    have hlinks : ∀ top ∈ BinaryOperation.power.token (start + base.width) :: chain,
        top.IsLink := List.forall_mem_cons.mpr ⟨Token.isLink_power _, hchain⟩
    have hyields : Token.Yields (Rank.signed chained).precedence below := by
      rwa [Rank.precedence_signed]
    have hcaret (later : List Token) := @Postfix.arrange_operator strict later
      (BinaryOperation.power.token (start + base.width)) _ [] (chain ++ below) rfl
      (List.forall_mem_nil _) (Token.Yields.isBlockedBy_power hchain hbelow)
    have hnext := ihexponent hlinks (.inl Rank.isChain_signed) hyields
      (behind (start + base.width) gap) rest
    simp only [tokens, List.append_assoc, List.cons_append, List.nil_append, arranged]
      at hcaret hnext ⊢
    rw [ihbase hchain (.inl rfl) hbelow, pending_atom, hcaret, hnext]
    simp [Functor.map_map]
  | negation gap body ih =>
    have hlinks : ∀ top ∈ [Token.minus Operator.negation start], top.IsLink := by
      simpa using Token.isLink_minus start
    have hyields : Token.Yields (Rank.signed chained).precedence below := by
      rwa [Rank.precedence_signed]
    -- The minus sign releases the whole chain, finished or not.
    have hblocking : ∀ top ∈ chain, Postfix.isBlockedBy Operator.negation top = true :=
      fun top htop => (hchain top htop).binds.isBlockedBy rfl
    have hminus (later : List Token) := @Postfix.arrange_operator strict later
      (Token.minus Operator.negation start) _ chain below rfl hblocking hbelow.isBlockedBy
    have hnext := ih hlinks (.inl Rank.isChain_signed) hyields (behind start gap) rest
    simp only [tokens, List.append_assoc, List.cons_append, List.nil_append, arranged]
      at hnext ⊢
    rw [hminus, hnext]
    simp [Functor.map_map]
  | @binary rank tight htight left operation hoperation gap right ihleft ihright =>
    obtain ⟨hprecedence, hleft, htighter⟩ := BinaryOperation.operator_of_rank? hoperation htight
    obtain rfl := BinaryOperation.eq_nil_of_rank? hoperation hrank
    have hnone : ∀ top ∈ ([] : List Token), top.IsLink := List.forall_mem_nil _
    -- The operator releases exactly what its left operand has left pending.
    have hblocking : ∀ top ∈ (left.arranged [] start).pending,
        Postfix.isBlockedBy operation.operator top = true := by
      intro top htop
      have hbinds := left.binds_pending hnone start top htop
      rw [← hprecedence] at hbinds
      exact hbinds.isBlockedBy hleft
    have hstays : ∀ top ∈ below.head?,
        Postfix.isBlockedBy operation.operator top = false := by
      rw [← hprecedence] at hbelow
      exact hbelow.isBlockedBy
    have hoperator (later : List Token) := @Postfix.arrange_operator strict later
      (operation.token (start + left.width)) _ _ below rfl hblocking hstays
    have hyields := Token.yields_operation (hprecedence.trans_lt htighter)
      (start + left.width) below
    have hright := ihright hnone (.inr rfl) hyields (behind (start + left.width) gap) rest
    have hfirst := ihleft hnone (.inr rfl) hbelow start (operation.token (start + left.width) ::
      (right.tokens Operator.negation (behind (start + left.width) gap) ++ rest))
    simp only [tokens, List.append_assoc, List.cons_append, List.nil_append, arranged]
      at hfirst hright ⊢
    rw [hfirst, hoperator, hright]
    simp [Functor.map_map]

end Infix

end Calculator
