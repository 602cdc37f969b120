import Calculator.Proofs.Postfix.Arrange

/-!
# Operators of any table

The conversion to postfix form is right for every choice of precedences and associativities, not
only for those of the language, as long as operators of equal precedence group to the same side. A
tree of binary operators can be written with more parentheses than it needs; what is required is
that the written form has those without which another operator would come first.
-/

namespace Calculator

/-- Whether an operand with the operator `child` at its root needs parentheses on this side: it
binds looser, or equally tight where equal precedence does not group to this side. -/
def Operator.needsGroup (op : Operator) (side : Associativity) (child : Operator) : Bool :=
  child.precedence < op.precedence ||
    (child.precedence == op.precedence && op.associativity != side)

namespace Operator

variable {op child other : Operator} {side : Associativity}

/-- An operand that needs no parentheses binds at least as tightly, and equally tight only on the
side to which equal precedence groups. -/
theorem needsGroup_eq_false_iff : op.needsGroup side child = false ↔
    op.precedence ≤ child.precedence ∧
      (child.precedence = op.precedence → op.associativity = side) := by
  simp [needsGroup]

/-- What binds tighter than an operand without need of parentheses does not need them, either. -/
theorem needsGroup_eq_false_of_le (hchild : op.needsGroup side child = false)
    (hle : child.precedence ≤ other.precedence) : op.needsGroup side other = false := by
  rw [needsGroup_eq_false_iff] at hchild ⊢
  obtain ⟨hroom, hside⟩ := hchild
  exact ⟨hroom.trans hle, fun hsame => hside (by omega)⟩

/-- An operator waits for those of a left operand that needs no parentheses. -/
theorem waitsFor_of_needsGroup_left (hother : op.needsGroup .left other = false) :
    op.waitsFor other = true := by
  obtain ⟨hle, hside⟩ := needsGroup_eq_false_iff.mp hother
  cases hassociativity : op.associativity with
  | left => simpa [waitsFor, hassociativity] using hle
  | right =>
    have hne : other.precedence ≠ op.precedence := fun hsame => by
      rw [hside hsame] at hassociativity
      cases hassociativity
    simp only [waitsFor, hassociativity, decide_eq_true_eq]
    omega

/-- The operators of a right operand that needs no parentheses do not wait for the operator, if
operators of equal precedence group to the same side. -/
theorem waitsFor_of_needsGroup_right (hother : op.needsGroup .right other = false)
    (hsame : op.precedence = other.precedence → op.associativity = other.associativity) :
    other.waitsFor op = false := by
  obtain ⟨hle, hside⟩ := needsGroup_eq_false_iff.mp hother
  cases hassociativity : other.associativity with
  | left =>
    have hne : op.precedence ≠ other.precedence := fun heq => by
      rw [← hsame heq, hside heq.symm] at hassociativity
      cases hassociativity
    simp only [waitsFor, hassociativity, decide_eq_false_iff_not]
    omega
  | right => simpa [waitsFor, hassociativity] using hle

end Operator

/-- A tree of operands and binary operators with the tokens that they are written with. -/
inductive BinaryTree
  | operand (token : Token) (htoken : token.kind = .operand)
  | node (op : Operator) (sign : Token) (hsign : sign.kind = .operator op)
      (left right : BinaryTree)

namespace BinaryTree

/-- The tokens of a tree, each operator behind its operands. -/
def postorder : BinaryTree → List Token
  | operand token _ => [token]
  | node _ sign _ left right => left.postorder ++ right.postorder ++ [sign]

/-- The operators of a tree in the order in which they are written. -/
def operators : BinaryTree → List Operator
  | operand _ _ => []
  | node op _ _ left right => left.operators ++ op :: right.operators

/-- Operators of equal precedence group to the same side. -/
def IsUniform (tree : BinaryTree) : Prop :=
  ∀ op ∈ tree.operators, ∀ other ∈ tree.operators,
    op.precedence = other.precedence → op.associativity = other.associativity

instance (tree : BinaryTree) : Decidable tree.IsUniform :=
  inferInstanceAs (Decidable (∀ op ∈ tree.operators, ∀ other ∈ tree.operators,
    op.precedence = other.precedence → op.associativity = other.associativity))

/-- What holds of a tree holds of its operands. -/
theorem IsUniform.operands {op : Operator} {sign : Token} {hsign : sign.kind = .operator op}
    {left right : BinaryTree} (huniform : (node op sign hsign left right).IsUniform) :
    left.IsUniform ∧ right.IsUniform := by
  have hleft {other : Operator} (hother : other ∈ left.operators) :
      other ∈ (node op sign hsign left right).operators := List.mem_append_left _ hother
  have hright {other : Operator} (hother : other ∈ right.operators) :
      other ∈ (node op sign hsign left right).operators :=
    List.mem_append_right _ (List.mem_cons_of_mem _ hother)
  exact ⟨fun op hop other hother => huniform op (hleft hop) other (hleft hother),
    fun op hop other hother => huniform op (hright hop) other (hright hother)⟩

end BinaryTree

/-- A tree as it is written, with parentheses around some of its operands. -/
inductive Bracketed
  | operand (token : Token) (htoken : token.kind = .operand)
  | group (opening : Token) (hopening : opening.kind = .opening) (body : Bracketed)
      (closing : Token) (hclosing : closing.kind = .closing)
  | binary (left : Bracketed) (op : Operator) (sign : Token) (hsign : sign.kind = .operator op)
      (right : Bracketed)

namespace Bracketed

/-- The tree without the parentheses. -/
def tree : Bracketed → BinaryTree
  | operand token htoken => .operand token htoken
  | group _ _ body _ _ => body.tree
  | binary left op sign hsign right => .node op sign hsign left.tree right.tree

/-- The tokens in the order in which they are written. -/
def tokens : Bracketed → List Token
  | operand token _ => [token]
  | group opening _ body closing _ => opening :: (body.tokens ++ [closing])
  | binary left _ sign _ right => left.tokens ++ sign :: right.tokens

/-- The operator at the root, unless it stands in parentheses. -/
def root? : Bracketed → Option Operator
  | operand _ _ | group _ _ _ _ _ => none
  | binary _ op _ _ _ => some op

/-- Whether every operand that needs parentheses has them. -/
def isFaithful : Bracketed → Bool
  | operand _ _ => true
  | group _ _ body _ _ => body.isFaithful
  | binary left op _ _ right =>
    left.isFaithful && right.isFaithful && left.root?.all (!op.needsGroup .left ·) &&
      right.root?.all (!op.needsGroup .right ·)

/-- The operators that do not stand in parentheses. -/
def exposed : Bracketed → List Operator
  | operand _ _ | group _ _ _ _ _ => []
  | binary left op _ _ right => left.exposed ++ op :: right.exposed

/-- What the conversion has put out when it has read the tokens. -/
def released : Bracketed → List Token
  | operand token _ => [token]
  | group _ _ body _ _ => body.tree.postorder
  | binary left _ _ _ right => left.tree.postorder ++ right.released

/-- The operators that are pending then, the last one first: those on the way from the root to the
last operand. -/
def spine : Bracketed → List Token
  | operand _ _ | group _ _ _ _ _ => []
  | binary _ _ sign _ right => right.spine ++ [sign]

/-- Behind the last token what is pending completes the postfix form. -/
theorem released_append_spine (e : Bracketed) : e.released ++ e.spine = e.tree.postorder := by
  induction e with
  | operand token htoken => rfl
  | group opening hopening body closing hclosing ih => exact List.append_nil _
  | binary left op sign hsign right ihleft ihright =>
    rw [released, spine, tree, BinaryTree.postorder, ← ihright]
    simp only [List.append_assoc]

/-- The operators outside of parentheses are operators of the tree. -/
theorem exposed_subset (e : Bracketed) : e.exposed ⊆ e.tree.operators := by
  induction e with
  | operand | group => exact List.nil_subset _
  | binary left op sign hsign right ihleft ihright =>
    exact List.append_subset.mpr ⟨List.subset_append_of_subset_left _ ihleft,
      List.subset_append_of_subset_right _ (List.cons_subset_cons op ihright)⟩

/-- What is pending are operators outside of parentheses. -/
theorem exists_operator_of_mem_spine {e : Bracketed} {top : Token} (htop : top ∈ e.spine) :
    ∃ op ∈ e.exposed, top.kind = .operator op := by
  induction e with
  | operand | group => cases htop
  | binary left op sign hsign right ihleft ihright =>
    rcases List.mem_append.mp htop with hright | hsame
    · obtain ⟨other, hother, hkind⟩ := ihright hright
      exact ⟨other, List.mem_append_right _ (List.mem_cons_of_mem _ hother), hkind⟩
    · rw [List.mem_singleton] at hsame
      exact ⟨op, List.mem_append_right _ List.mem_cons_self, hsame ▸ hsign⟩

/-- No parenthesis of a tree stays pending. -/
theorem isOpening_of_mem_spine {e : Bracketed} {top : Token} (htop : top ∈ e.spine) :
    top.isOpening = false := by
  obtain ⟨op, -, hkind⟩ := exists_operator_of_mem_spine htop
  simp [Token.isOpening, hkind]

/-- A written operation is faithful if its operands are and have the parentheses that they need. -/
theorem isFaithful_binary_iff {left right : Bracketed} {op : Operator} {sign : Token}
    {hsign : sign.kind = .operator op} :
    (binary left op sign hsign right).isFaithful = true ↔
      left.isFaithful = true ∧ right.isFaithful = true ∧
        (∀ root, left.root? = some root → op.needsGroup .left root = false) ∧
          ∀ root, right.root? = some root → op.needsGroup .right root = false := by
  simp [isFaithful, Option.all_eq_true, and_assoc]

/-- If the operator at the root stands without parentheses, so do all others that are not in
parentheses. -/
theorem needsGroup_of_mem_exposed {e : Bracketed} (hfaithful : e.isFaithful = true)
    {op : Operator} {side : Associativity}
    (hroot : ∀ root, e.root? = some root → op.needsGroup side root = false) :
    ∀ other ∈ e.exposed, op.needsGroup side other = false := by
  induction e generalizing op side with
  | operand | group => exact fun other hother => absurd hother List.not_mem_nil
  | binary left root sign hsign right ihleft ihright =>
    obtain ⟨hleft, hright, hleftRoot, hrightRoot⟩ := isFaithful_binary_iff.mp hfaithful
    have hhere : op.needsGroup side root = false := hroot root rfl
    have hchild {inner : Associativity} {child : Operator}
        (hinner : root.needsGroup inner child = false) : op.needsGroup side child = false :=
      Operator.needsGroup_eq_false_of_le hhere (Operator.needsGroup_eq_false_iff.mp hinner).1
    refine List.forall_mem_append.mpr ⟨?_, List.forall_mem_cons.mpr ⟨hhere, ?_⟩⟩
    · exact ihleft hleft fun child hsome => hchild (hleftRoot child hsome)
    · exact ihright hright fun child hsome => hchild (hrightRoot child hsome)

/-- The conversion puts out what is released of a tree and keeps its spine pending, as long as the
operator that is pending in front of it blocks none of its operators. -/
theorem arrange_tokens {e : Bracketed} (hfaithful : e.isFaithful = true)
    (huniform : e.tree.IsUniform) (strict : Bool) {below : List Token}
    (hbelow : ∀ top ∈ below.head?, ∀ op ∈ e.exposed, Postfix.isBlockedBy op top = false)
    (rest : List Token) :
    Postfix.arrange strict below (e.tokens ++ rest) =
      (e.released ++ ·) <$> Postfix.arrange strict (e.spine ++ below) rest := by
  induction e generalizing below rest with
  | operand token htoken => exact Postfix.arrange_operand htoken
  | group opening hopening body closing hclosing ih =>
    have hopen : opening.isOpening = true := by simp [Token.isOpening, hopening]
    have hstart : ∀ top ∈ (opening :: below).head?, ∀ op ∈ body.exposed,
        Postfix.isBlockedBy op top = false := by
      rintro top htop op -
      obtain rfl : opening = top := Option.some.inj htop
      simp [Postfix.isBlockedBy, Token.operator?, hopening]
    have hspine : ∀ top ∈ body.spine, top.isOpening = false := fun top =>
      isOpening_of_mem_spine
    have hbody := ih hfaithful huniform hstart (closing :: rest)
    rw [Postfix.arrange_closing hclosing hspine hopen] at hbody
    simp only [tokens, List.cons_append, List.append_assoc, List.nil_append]
    rw [Postfix.arrange_opening hopening, hbody, released, spine, ← released_append_spine]
    simp [Functor.map_map]
  | binary left op sign hsign right ihleft ihright =>
    obtain ⟨hleft, hright, hleftRoot, hrightRoot⟩ := isFaithful_binary_iff.mp hfaithful
    obtain ⟨huniformLeft, huniformRight⟩ := huniform.operands
    have hfirst : ∀ top ∈ below.head?, ∀ other ∈ left.exposed,
        Postfix.isBlockedBy other top = false := fun top htop other hother =>
      hbelow top htop other (List.mem_append_left _ hother)
    have hhere : ∀ top ∈ below.head?, Postfix.isBlockedBy op top = false := fun top htop =>
      hbelow top htop op (List.mem_append_right _ List.mem_cons_self)
    -- The operator releases exactly what its left operand has left pending.
    have hblocking : ∀ top ∈ left.spine, Postfix.isBlockedBy op top = true := by
      intro top htop
      obtain ⟨other, hother, hkind⟩ := exists_operator_of_mem_spine htop
      have hwaits := Operator.waitsFor_of_needsGroup_left
        (needsGroup_of_mem_exposed hleft hleftRoot other hother)
      simpa [Postfix.isBlockedBy, Token.operator?, hkind] using hwaits
    have hsecond : ∀ top ∈ (sign :: below).head?, ∀ other ∈ right.exposed,
        Postfix.isBlockedBy other top = false := by
      intro top htop other hother
      obtain rfl : sign = top := Option.some.inj htop
      have hsame := huniform op (List.mem_append_right _ List.mem_cons_self) other
        (List.mem_append_right _ (List.mem_cons_of_mem _ (right.exposed_subset hother)))
      have hwaits := Operator.waitsFor_of_needsGroup_right
        (needsGroup_of_mem_exposed hright hrightRoot other hother) hsame
      simpa [Postfix.isBlockedBy, Token.operator?, hsign] using hwaits
    have hleftTokens := ihleft hleft huniformLeft hfirst (sign :: (right.tokens ++ rest))
    have hrightTokens := ihright hright huniformRight hsecond rest
    simp only [tokens, List.append_assoc, List.cons_append, released, spine, List.nil_append]
    rw [hleftTokens, Postfix.arrange_operator hsign hblocking hhere, hrightTokens,
      ← released_append_spine]
    simp [Functor.map_map]

/-- A tree of binary operators that is written with the parentheses that it needs, and any others,
is converted to its postorder. -/
theorem ofTokens_tokens {e : Bracketed} (huniform : e.tree.IsUniform)
    (hfaithful : e.isFaithful = true) (options : Options) :
    Postfix.ofTokens options e.tokens = .ok e.tree.postorder := by
  have hnone : ∀ top ∈ ([] : List Token).head?, ∀ op ∈ e.exposed,
      Postfix.isBlockedBy op top = false := fun top htop => absurd htop (Option.not_mem_none top)
  have htokens := arrange_tokens hfaithful huniform options.strict hnone []
  rw [List.append_nil, List.append_nil, Postfix.arrange_nil,
    Postfix.release_operators fun top => isOpening_of_mem_spine] at htokens
  rw [Postfix.ofTokens, htokens, ← released_append_spine]
  rfl

/-- `(a → b) → ((c) → d ∧ e)` with a conjunction that binds tighter than the implication, which
groups to the right: only the first parentheses are needed. -/
def implications : Bracketed :=
  let implication : Operator := ⟨'→', 1, 2, .right⟩
  let conjunction : Operator := ⟨'∧', 2, 2, .left⟩
  let grouped (body : Bracketed) : Bracketed :=
    group ⟨.opening, "(", 0⟩ rfl body ⟨.closing, ")", 0⟩ rfl
  binary
    (grouped (binary (operand ⟨.operand, "a", 0⟩ rfl) implication
      ⟨.operator implication, "→", 0⟩ rfl (operand ⟨.operand, "b", 0⟩ rfl)))
    implication ⟨.operator implication, "→", 0⟩ rfl
    (grouped (binary (grouped (operand ⟨.operand, "c", 0⟩ rfl)) implication
      ⟨.operator implication, "→", 0⟩ rfl
      (binary (operand ⟨.operand, "d", 0⟩ rfl) conjunction
        ⟨.operator conjunction, "∧", 0⟩ rfl (operand ⟨.operand, "e", 0⟩ rfl))))

/-- Operators of another table are arranged like the usual ones: with the parentheses that it needs
and those that it does not, `implications` has the postfix form of its tree. -/
theorem ofTokens_tokens_implications :
    implications.tree.IsUniform ∧ implications.isFaithful = true ∧
      Postfix.ofTokens {} implications.tokens = .ok implications.tree.postorder :=
  have huniform : implications.tree.IsUniform := by decide
  have hfaithful : implications.isFaithful = true := by decide
  ⟨huniform, hfaithful, ofTokens_tokens huniform hfaithful {}⟩

end Bracketed

end Calculator
