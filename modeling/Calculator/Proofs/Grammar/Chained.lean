import Calculator.Proofs.Grammar.Value
import Calculator.Proofs.Machine.Arity

/-!
# Chained minus signs

A minus sign directly behind `^` or another minus sign releases those before their operand has
come. If a value of some expression further left is on the stack, the operators apply to that
value instead, and the evaluation may give a value that is not the value of the tree. This file
says for which expressions that is impossible: those without chained minus signs, and those in
which the released operators find too few values, so that the evaluation fails.
-/

namespace Calculator

namespace Token

/-- An operand takes nothing off the stack. -/
@[simp] theorem arity_operand (text : String) (position : Nat) :
    (⟨.operand, text, position⟩ : Token).arity = 0 := rfl

/-- A binary operation takes two values off the stack. -/
@[simp] theorem arity_operation (operation : BinaryOperation) (position : Nat) :
    (operation.token position).arity = 2 := by
  cases operation <;> rfl

/-- A minus sign takes one value off the stack. -/
@[simp] theorem arity_minus (position : Nat) :
    (minus Operator.negation position).arity = 1 := rfl

end Token

namespace Infix

variable {α : Type} {chained : Bool} {rank : Rank}

/-- Whether a minus sign of an expression releases the chain in which the expression stands. -/
def releasesChain : {rank : Rank} → Infix chained rank → Bool
  | _, operand _ _ => false
  | _, group _ _ _ => false
  | _, lift _ body => body.releasesChain
  | _, power _ _ exponent => exponent.releasesChain
  | _, negation _ _ => true
  | _, binary _ _ _ _ _ _ => false

/-- Whether a minus sign releases a chain in which the first operand of the expression stands, so
that there is no value further left. -/
def chainsMinusFirst : {rank : Rank} → Infix chained rank → Bool
  | _, operand _ _ => false
  | _, group _ body _ => body.chainsMinusFirst
  | _, lift _ body => body.chainsMinusFirst
  | _, power base _ exponent => base.chainsMinusFirst || exponent.releasesChain
  | _, negation _ body => body.chainsMinusFirst || body.releasesChain
  | _, binary _ left _ _ _ _ => left.chainsMinusFirst

/-- A minus sign in front releases the chain. -/
theorem releasesChain_of_startsWithMinus (e : Infix chained rank) (hrank : rank.isChain = true)
    (hstart : e.startsWithMinus = true) : e.releasesChain = true := by
  induction e with
  | operand => cases hstart
  | group => cases hstart
  | lift htight body ih => exact ih (Rank.isChain_of_tighter? htight hrank) hstart
  | power base gap exponent =>
    rw [startsWithMinus, base.startsWithMinus_atom] at hstart
    cases hstart
  | negation => rfl
  | binary htight left operation hoperation =>
    cases operation <;> cases hoperation <;> cases hrank

/-- The conversion keeps the terms of an expression and of its chain, in some order. -/
theorem perm_arrangement (source : Variables α) (e : Infix chained rank) (chain : List Token)
    (hrank : rank.isChain = true ∨ chain = []) (start : Nat) :
    List.Perm ((e.arrangement chain start).map (Term.ofToken source))
      ((e.tree source start).postorder ++ chain.map (Term.ofToken source)) := by
  induction e generalizing chain start with
  | operand word gap =>
    rw [tree, OperatorTree.postorder_ofWord]
    rfl
  | group gap body after ih =>
    have hbody := ih [] (.inr rfl) (behind start gap)
    rw [List.map_nil, List.append_nil] at hbody
    rw [arrangement_group, List.map_append]
    exact hbody.append_right _
  | lift htight body ih =>
    exact ih chain (hrank.imp_left (Rank.isChain_of_tighter? htight)) start
  | power base gap exponent ihbase ihexponent =>
    have hbase := ihbase [] (.inl rfl) start
    have hexponent := ihexponent (BinaryOperation.power.token (start + base.width) :: chain)
      (.inl Rank.isChain_signed) (behind (start + base.width) gap)
    rw [List.map_nil, List.append_nil] at hbase
    simpa [tree, OperatorTree.postorder] using hbase.append hexponent
  | negation gap body ih =>
    have hbody := ih [Token.minus Operator.negation start] (.inl Rank.isChain_signed)
      (behind start gap)
    have hboth := (hbody.append_left (chain.map (Term.ofToken source))).trans
      List.perm_append_comm
    simpa [tree, OperatorTree.postorder] using hboth
  | binary htight left operation hoperation gap right ihleft ihright =>
    obtain rfl := BinaryOperation.eq_nil_of_rank? hoperation hrank
    have hleft := ihleft [] (.inr rfl) start
    have hright := ihright [] (.inr rfl) (behind (start + left.width) gap)
    rw [List.map_nil, List.append_nil] at hleft hright
    simpa [tree, OperatorTree.postorder] using (hleft.append hright).append_right
      ([operation.token (start + left.width)].map (Term.ofToken source))

/-- Of an expression and its chain one value more is left than of the chain alone. -/
theorem sum_arrangement (e : Infix chained rank) (chain : List Token)
    (hrank : rank.isChain = true ∨ chain = []) (start : Nat) :
    ((e.arrangement chain start).map Token.arity).sum + chain.length + 1 =
      (e.arrangement chain start).length + (chain.map Token.arity).sum := by
  let source : Variables Unit := Variables.none
  have hperm := e.perm_arrangement source chain hrank start
  have hsum := (hperm.map Term.arity).sum_eq
  have hlength := hperm.length_eq
  have htree := (e.tree source start).sum_arities_postorder
  have harities (form : List Token) := Term.arities_ofToken source form
  unfold Term.arities at htree harities
  rw [List.map_append, List.sum_append, harities, harities] at hsum
  rw [List.length_append, List.length_map, List.length_map] at hlength
  omega

/-- Of an expression without a chain one value is left. -/
theorem sum_arrangement_nil (e : Infix chained rank) (start : Nat) :
    ((e.arrangement [] start).map Token.arity).sum + 1 = (e.arrangement [] start).length := by
  simpa using e.sum_arrangement [] (.inr rfl) start

/-- How many values the operators of a chain need: one more than they take together, unless there
are none. -/
theorem needed_chain {chain : List Token}
    (hchain : ∀ top ∈ chain, top.arity = 1 ∨ top.arity = 2) :
    Stack.needed (chain.map Token.arity) =
        (chain.map Token.arity).sum - chain.length + (!chain.isEmpty).toNat ∧
      chain.length ≤ (chain.map Token.arity).sum ∧
      ((!chain.isEmpty).toNat = 0 → (chain.map Token.arity).sum = 0) := by
  have hoperators : ∀ arity ∈ chain.map Token.arity, arity = 1 ∨ arity = 2 := by
    simpa using hchain
  have hneeded := Stack.needed_operators hoperators
  have hsum := Stack.length_le_sum_operators hoperators
  rw [List.length_map] at hneeded hsum
  rw [List.isEmpty_map] at hneeded
  refine ⟨hneeded, hsum, fun hempty => ?_⟩
  obtain rfl : chain = [] := by simpa using hempty
  rfl

/-- How many values the postfix form of an expression and its chain needs: the operators of the
chain need one value more if they come first, and at least one value is needed if operators come
before all operands. -/
theorem needed_arrangement (e : Infix chained rank) (chain : List Token)
    (hchain : ∀ top ∈ chain, top.arity = 1 ∨ top.arity = 2)
    (hrank : rank.isChain = true ∨ chain = []) (start : Nat) :
    Stack.needed ((e.arrangement chain start).map Token.arity) =
      max e.chainsMinusFirst.toNat ((chain.map Token.arity).sum - chain.length +
        (!chain.isEmpty && e.releasesChain).toNat) := by
  have hor (a b : Bool) : (a || b).toNat = max a.toNat b.toNat := by cases a <;> cases b <;> rfl
  have hand (a b : Bool) : (a && b).toNat = min a.toNat b.toNat := by cases a <;> cases b <;> rfl
  have hone := (!chain.isEmpty).toNat_le
  induction e generalizing chain start with
  | operand word gap =>
    obtain ⟨hneeded, hlength, hempty⟩ := needed_chain hchain
    rw [arrangement_operand, List.map_cons, Stack.needed, hneeded, releasesChain,
      chainsMinusFirst, Bool.and_false, Bool.toNat_false, Token.arity_operand]
    omega
  | group gap body after ih =>
    obtain ⟨hneeded, hlength, hempty⟩ := needed_chain hchain
    have hbody : Stack.needed ((body.arrangement [] (behind start gap)).map Token.arity) =
        body.chainsMinusFirst.toNat := by
      simpa using ih [] (List.forall_mem_nil _) (.inr rfl) (behind start gap)
    have hsum := body.sum_arrangement_nil (behind start gap)
    rw [arrangement_group, List.map_append, Stack.needed_append, hbody, hneeded, List.length_map,
      releasesChain, chainsMinusFirst, Bool.and_false, Bool.toNat_false]
    omega
  | lift htight body ih =>
    exact ih chain hchain (hrank.imp_left (Rank.isChain_of_tighter? htight)) start hone
  | power base gap exponent ihbase ihexponent =>
    obtain ⟨-, hlength, hempty⟩ := needed_chain hchain
    have hbase : Stack.needed ((base.arrangement [] start).map Token.arity) =
        base.chainsMinusFirst.toNat := by
      simpa using ihbase [] (List.forall_mem_nil _) (.inr rfl) start
    have hsum := base.sum_arrangement_nil start
    have hcaret : ∀ top ∈ BinaryOperation.power.token (start + base.width) :: chain,
        top.arity = 1 ∨ top.arity = 2 := List.forall_mem_cons.mpr ⟨.inr rfl, hchain⟩
    have hexponent := ihexponent _ hcaret (.inl Rank.isChain_signed)
      (behind (start + base.width) gap) (Bool.toNat_le _)
    rw [List.map_cons, Token.arity_operation, List.sum_cons, List.length_cons, List.isEmpty_cons,
      Bool.not_false, Bool.true_and] at hexponent
    rw [arrangement_power, List.map_append, Stack.needed_append, hbase, hexponent, List.length_map,
      releasesChain, chainsMinusFirst, hor, hand]
    have hfirst := exponent.chainsMinusFirst.toNat_le
    have hreleases := exponent.releasesChain.toNat_le
    omega
  | negation gap body ih =>
    obtain ⟨hneeded, hlength, hempty⟩ := needed_chain hchain
    have hminus : ∀ top ∈ [Token.minus Operator.negation start],
        top.arity = 1 ∨ top.arity = 2 := by
      simp
    have hbody : Stack.needed ((body.arrangement [Token.minus Operator.negation start]
        (behind start gap)).map Token.arity) =
          max body.chainsMinusFirst.toNat body.releasesChain.toNat := by
      simpa using ih _ hminus (.inl Rank.isChain_signed) (behind start gap)
    rw [arrangement_negation, List.map_append, Stack.needed_append, hneeded, hbody,
      List.length_map, releasesChain, chainsMinusFirst, hor, Bool.and_true]
    have hfirst := body.chainsMinusFirst.toNat_le
    have hreleases := body.releasesChain.toNat_le
    omega
  | binary htight left operation hoperation gap right ihleft ihright =>
    obtain rfl := BinaryOperation.eq_nil_of_rank? hoperation hrank
    have hleft : Stack.needed ((left.arrangement [] start).map Token.arity) =
        left.chainsMinusFirst.toNat := by
      simpa using ihleft [] (List.forall_mem_nil _) (.inr rfl) start
    have hright : Stack.needed ((right.arrangement [] (behind (start + left.width) gap)).map
        Token.arity) = right.chainsMinusFirst.toNat := by
      simpa using ihright [] (List.forall_mem_nil _) (.inr rfl) (behind (start + left.width) gap)
    have hleftsum := left.sum_arrangement_nil start
    have hrightsum := right.sum_arrangement_nil (behind (start + left.width) gap)
    have hfirst := right.chainsMinusFirst.toNat_le
    simp only [arrangement_binary, List.map_append, Stack.needed_append, hleft, hright,
      List.length_map, List.map_cons, List.map_nil, Token.arity_operation, Stack.needed,
      List.sum_append, List.length_append, List.sum_nil, List.length_nil, releasesChain,
      chainsMinusFirst, Bool.and_false, Bool.toNat_false]
    omega

/-- A chain has no operands. -/
theorem count_chain {chain : List Token} (hchain : ∀ top ∈ chain, top.arity = 1 ∨ top.arity = 2) :
    (chain.map Token.arity).count 0 = 0 := by
  rw [List.count_eq_zero, List.mem_map]
  rintro ⟨top, htop, hzero⟩
  have := hchain top htop
  omega

/-- The conversion keeps the number of operands. -/
theorem count_arrangement (source : Variables α) (e : Infix chained rank) (chain : List Token)
    (hchain : ∀ top ∈ chain, top.arity = 1 ∨ top.arity = 2)
    (hrank : rank.isChain = true ∨ chain = []) (start : Nat) :
    ((e.arrangement chain start).map Token.arity).count 0 =
      (Term.arities (e.tree source start).postorder).count 0 := by
  have hcount := ((e.perm_arrangement source chain hrank start).map Term.arity).count_eq 0
  have harities (form : List Token) := Term.arities_ofToken source form
  unfold Term.arities at harities ⊢
  rwa [List.map_append, List.count_append, harities, harities, count_chain hchain] at hcount

/-- No operator of the postfix form comes later than in the postorder of the tree, and some
operator comes earlier if a minus sign releases operators before their operands. -/
theorem delay_arrangement (source : Variables α) (e : Infix chained rank) (chain : List Token)
    (hchain : ∀ top ∈ chain, top.arity = 1 ∨ top.arity = 2)
    (hrank : rank.isChain = true ∨ chain = []) (start before : Nat) :
    Stack.delay before ((e.arrangement chain start).map Token.arity) ≤
        Stack.delay before
          (Term.arities (e.tree source start).postorder ++ chain.map Token.arity) ∧
      (e.chainsMinus = true ∨ chain ≠ [] ∧ e.releasesChain = true →
        Stack.delay before ((e.arrangement chain start).map Token.arity) <
          Stack.delay before
            (Term.arities (e.tree source start).postorder ++ chain.map Token.arity)) := by
  induction e generalizing chain start before with
  | operand word gap =>
    have hword : Term.arities (OperatorTree.ofWord source word start).postorder = [0] := by
      rw [OperatorTree.postorder_ofWord]
      exact congrArg (· :: []) (Term.arity_ofToken source _)
    rw [tree, hword]
    refine ⟨Nat.le_refl _, ?_⟩
    rintro (hminus | ⟨-, hreleases⟩)
    · cases hminus
    · cases hreleases
  | group gap body after ih =>
    obtain ⟨hle, hlt⟩ := ih [] (List.forall_mem_nil _) (.inr rfl) (behind start gap) before
    have hcount := body.count_arrangement source [] (List.forall_mem_nil _) (.inr rfl)
      (behind start gap)
    rw [List.map_nil, List.append_nil] at hle hlt
    rw [arrangement_group, tree, List.map_append, Stack.delay_append, Stack.delay_append, hcount]
    refine ⟨Nat.add_le_add_right hle _, ?_⟩
    rintro (hminus | ⟨-, hreleases⟩)
    · exact Nat.add_lt_add_right (hlt (.inl hminus)) _
    · cases hreleases
  | lift htight body ih =>
    exact ih chain hchain (hrank.imp_left (Rank.isChain_of_tighter? htight)) start before
  | power base gap exponent ihbase ihexponent =>
    obtain ⟨hbase, hbaselt⟩ := ihbase [] (List.forall_mem_nil _) (.inr rfl) start before
    have hcount := base.count_arrangement source [] (List.forall_mem_nil _) (.inr rfl) start
    have hcaret : ∀ top ∈ BinaryOperation.power.token (start + base.width) :: chain,
        top.arity = 1 ∨ top.arity = 2 := List.forall_mem_cons.mpr ⟨.inr rfl, hchain⟩
    obtain ⟨hexponent, hexponentlt⟩ := ihexponent _ hcaret (.inl Rank.isChain_signed)
      (behind (start + base.width) gap)
      (before + (Term.arities (base.tree source start).postorder).count 0)
    rw [List.map_nil, List.append_nil] at hbase hbaselt
    rw [List.map_cons, Token.arity_operation] at hexponent hexponentlt
    rw [arrangement_power, List.map_append, tree, OperatorTree.arities_binary, List.append_assoc,
      List.append_assoc, Stack.delay_append, Stack.delay_append, hcount]
    refine ⟨Nat.add_le_add hbase hexponent, ?_⟩
    rintro hminus
    simp only [chainsMinus, releasesChain, Bool.or_eq_true] at hminus
    rcases hminus with ((hminus | hminus) | hminus) | ⟨-, hreleases⟩
    · exact Nat.add_lt_add_of_lt_of_le (hbaselt (.inl hminus)) hexponent
    · have hreleases := exponent.releasesChain_of_startsWithMinus Rank.isChain_signed hminus
      exact Nat.add_lt_add_of_le_of_lt hbase
        (hexponentlt (.inr ⟨List.cons_ne_nil _ _, hreleases⟩))
    · exact Nat.add_lt_add_of_le_of_lt hbase (hexponentlt (.inl hminus))
    · exact Nat.add_lt_add_of_le_of_lt hbase
        (hexponentlt (.inr ⟨List.cons_ne_nil _ _, hreleases⟩))
  | negation gap body ih =>
    have hminus : ∀ top ∈ [Token.minus Operator.negation start],
        top.arity = 1 ∨ top.arity = 2 := by
      simp
    obtain ⟨hbody, hbodylt⟩ := ih _ hminus (.inl Rank.isChain_signed) (behind start gap) before
    have hnonzero : (chain.map Token.arity).count 0 = 0 := count_chain hchain
    have hoperators : ∀ arity ∈ chain.map Token.arity, arity = 1 ∨ arity = 2 := by
      simpa using hchain
    have hpositive := (body.tree source (behind start gap)).count_arities_postorder_pos
    rw [List.map_cons, List.map_nil, Token.arity_minus] at hbody hbodylt
    rw [arrangement_negation, List.map_append, tree, OperatorTree.arities_negation,
      Stack.delay_append,
      Stack.delay_append _ (_ ++ _), hnonzero, Nat.add_zero, Stack.delay_operators _ hoperators,
      Stack.delay_operators _ hoperators, Nat.add_mul, List.count_append, List.length_map]
    -- The chain comes before the operands of the body instead of behind them.
    refine ⟨by omega, ?_⟩
    rintro (hminus | ⟨hsome, -⟩)
    · simp only [chainsMinus, Bool.or_eq_true] at hminus
      have hreleases : body.chainsMinus = true ∨ body.releasesChain = true :=
        hminus.symm.imp_right (body.releasesChain_of_startsWithMinus Rank.isChain_signed)
      have hless := hbodylt (hreleases.imp_right fun h => ⟨List.cons_ne_nil _ _, h⟩)
      omega
    · have hlength : 0 < chain.length := List.length_pos_of_ne_nil hsome
      have hproduct := Nat.mul_pos hpositive hlength
      rw [Nat.add_mul]
      omega
  | binary htight left operation hoperation gap right ihleft ihright =>
    obtain rfl := BinaryOperation.eq_nil_of_rank? hoperation hrank
    obtain ⟨hleft, hleftlt⟩ := ihleft [] (List.forall_mem_nil _) (.inr rfl) start before
    have hleftcount := left.count_arrangement source [] (List.forall_mem_nil _) (.inr rfl) start
    obtain ⟨hright, hrightlt⟩ := ihright [] (List.forall_mem_nil _) (.inr rfl)
      (behind (start + left.width) gap)
      (before + (Term.arities (left.tree source start).postorder).count 0)
    have hrightcount := right.count_arrangement source [] (List.forall_mem_nil _) (.inr rfl)
      (behind (start + left.width) gap)
    rw [List.map_nil, List.append_nil] at hleft hleftlt hright hrightlt
    rw [arrangement_binary, List.map_append, List.map_append, tree, OperatorTree.arities_binary,
      List.map_nil, List.append_nil, List.append_assoc, List.append_assoc]
    simp only [Stack.delay_append, hleftcount, hrightcount, List.map_cons, List.map_nil,
      Token.arity_operation]
    refine ⟨by omega, ?_⟩
    rintro (hminus | ⟨hsome, -⟩)
    · simp only [chainsMinus, Bool.or_eq_true] at hminus
      rcases hminus with hminus | hminus
      · have hless := hleftlt (.inl hminus)
        omega
      · have hless := hrightlt (.inl hminus)
        omega
    · exact absurd rfl hsome

/-- If operators come before all operands the evaluation fails, whatever the arithmetic. -/
theorem evaluateTerms_ne_ok (A : Arithmetic α) (source : Variables α) (e : Infix chained .sum)
    (hfirst : e.chainsMinusFirst = true) (x : α) :
    evaluateTerms A ((e.arrangement [] 0).map (Term.ofToken source)) ≠ .ok x := by
  intro hvalue
  rw [Stack.evaluateTerms_eq_ok_iff_run] at hvalue
  have hneeded := (Stack.length_run hvalue).1
  rw [Term.arities_ofToken, e.needed_arrangement [] (List.forall_mem_nil _) (.inr rfl)]
    at hneeded
  simp [hfirst] at hneeded

/-- If operators come before their operands, but not before all operands, the recording arithmetic
gives a value that is not the value of the tree. -/
theorem exists_wrong_value (e : Infix chained .sum) (hminus : e.chainsMinus = true)
    (hfirst : e.chainsMinusFirst = false) :
    ∃ x, evaluateTerms .recording ((e.arrangement [] 0).map (Term.ofToken Variables.none)) =
      .ok x ∧ (e.tree Variables.none 0).eval .recording ≠ .ok x := by
  let source : Variables (List Nat) := Variables.none
  let form := (e.arrangement [] 0).map (Term.ofToken source)
  let tree := e.tree source 0
  have hperm : List.Perm form tree.postorder := by
    simpa using e.perm_arrangement source [] (.inr rfl) 0
  have htokens : ∀ term ∈ form, ∃ item, term = .token item := by
    intro term hterm
    obtain ⟨item, -, rfl⟩ := List.mem_map.mp hterm
    exact ⟨item, Term.ofToken_none item⟩
  have hneeded : Stack.needed (Term.arities form) = 0 := by
    have hall := e.needed_arrangement [] (List.forall_mem_nil _) (.inr rfl) 0
    rw [Term.arities_ofToken, hall]
    simp [hfirst]
  have hsum : (Term.arities form).sum + 1 = form.length := by
    rw [Term.arities_ofToken, List.length_map]
    exact e.sum_arrangement_nil 0
  have hknown : ∀ term ∈ form, term.Known := fun term hterm =>
    tree.known_of_mem_postorder term (hperm.mem_iff.mp hterm)
  refine ⟨Term.arities form, ?_, fun hvalue => ?_⟩
  · rw [← Term.flatMap_recorded htokens]
    exact Stack.evaluateTerms_recording hknown hneeded hsum
  -- Both runs record the arities that they read, so that equal values have equal delays.
  · rw [← OperatorTree.evaluateTerms_postorder] at hvalue
    have hrun := Stack.evaluateTerms_eq_ok_iff_run.mp hvalue
    have hrecorded := Stack.evaluateTerms_recording tree.known_of_mem_postorder
      (Nat.le_zero.mp (Stack.length_run hrun).1) tree.sum_arities_postorder
    have hitems : ∀ term ∈ tree.postorder, ∃ item, term = .token item := fun term hterm =>
      htokens term (hperm.mem_iff.mpr hterm)
    rw [Term.flatMap_recorded hitems] at hrecorded
    have hsame : Term.arities tree.postorder = Term.arities form :=
      Except.ok.inj (hrecorded.symm.trans hvalue)
    have hless := (e.delay_arrangement source [] (List.forall_mem_nil _) (.inr rfl) 0 0).2
      (.inl hminus)
    rw [List.map_nil, List.append_nil, ← Term.arities_ofToken source] at hless
    exact absurd (congrArg (Stack.delay 0) hsame) (Nat.ne_of_gt hless)

/-- The value of an expression of the chained grammar is the value of its postfix form. That is the
value of the tree if there is no chained minus sign, and a failure if one comes before all values.
Otherwise some arithmetic gives a value that is not the value of the tree. -/
theorem evaluate_text_chained {options : Options} (hminus : options.subtractAfterClosing = true)
    (leading : Blanks) (e : Infix true .sum) :
    (∀ (kind : NumberKind) (source : Variables kind.Value),
      kind.arithmetic.literal? (e.text leading) = none →
        evaluate kind options source (e.text leading) =
          evaluateTerms kind.arithmetic ((e.arrangement [] 0).map (Term.ofToken source)) ∧
        (e.chainsMinus = false →
          evaluate kind options source (e.text leading) =
            (e.tree source 0).eval kind.arithmetic) ∧
        (e.chainsMinusFirst = true →
          ∃ failure, evaluate kind options source (e.text leading) = .error failure)) ∧
    (e.chainsMinus = false ∨ e.chainsMinusFirst = true ↔
      ∀ {α : Type} (A : Arithmetic α) (source : Variables α) (x : α),
        (evaluateStages A options source (e.text leading)).result = .ok x →
          (e.tree source 0).eval A = .ok x) := by
  refine ⟨fun kind source hliteral => ?_, fun hsafe α A source x hvalue => ?_, fun hvalue => ?_⟩
  · rw [evaluate_eq_stages hliteral]
    have hform := result_evaluateStages_text kind.arithmetic source leading e (.inl hminus)
    refine ⟨hform, result_evaluateStages_eq_eval _ source leading e (.inl hminus),
      fun hfirst => ?_⟩
    rw [hform]
    cases houtcome : evaluateTerms kind.arithmetic
        ((e.arrangement [] 0).map (Term.ofToken source)) with
    | error failure => exact ⟨failure, rfl⟩
    | ok x => exact absurd houtcome (e.evaluateTerms_ne_ok _ source hfirst x)
  · rcases hsafe with hchains | hfirst
    · rwa [result_evaluateStages_eq_eval A source leading e (.inl hminus) hchains] at hvalue
    · rw [result_evaluateStages_text A source leading e (.inl hminus)] at hvalue
      exact absurd hvalue (e.evaluateTerms_ne_ok A source hfirst x)
  · by_contra hunsafe
    simp only [not_or, Bool.not_eq_false, Bool.not_eq_true] at hunsafe
    obtain ⟨x, hwrong, htree⟩ := e.exists_wrong_value hunsafe.1 hunsafe.2
    refine htree (hvalue .recording Variables.none x ?_)
    rwa [result_evaluateStages_text _ _ leading e (.inl hminus)]

/-- The expression `--3`. -/
def negatedTwice : Infix true .sum :=
  let three : Infix true .atom := operand (.single '3' (by decide)) .none
  (negation .none (negation .none three.ofAtom.ofPower)).ofUnary.ofProduct

/-- It fails, because nothing stands further left. -/
theorem evaluate_text_chained_negatedTwice :
    ∃ failure, evaluate .int32 { subtractAfterClosing := true } Variables.none "--3" =
      .error failure :=
  ((@evaluate_text_chained { subtractAfterClosing := true } rfl .none
    negatedTwice).1 .int32 Variables.none (by decide +kernel)).2.2 rfl

/-- The expression `5---3`. -/
def fiveMinusNegatedTwice : Infix true .sum :=
  let five : Infix true .atom := operand (.single '5' (by decide)) .none
  let three : Infix true .atom := operand (.single '3' (by decide)) .none
  five.ofAtom.ofPower.ofUnary.ofProduct.minus .none
    (negation .none (negation .none three.ofAtom.ofPower)).ofUnary

/-- It is evaluated as `-5 - -3`: the first minus sign in front of 3 negates 5. -/
theorem evaluate_fiveMinusNegatedTwice :
    fiveMinusNegatedTwice.text .none = "5---3" ∧
      evaluate .int32 { subtractAfterClosing := true } Variables.none "5---3" =
        .ok (-2#32 : BitVec 32) ∧
      (fiveMinusNegatedTwice.tree Variables.none 0).eval NumberKind.int32.arithmetic =
        .ok (2#32 : BitVec 32) := by
  refine ⟨rfl, ?_, rfl⟩
  decide +kernel

end Infix

end Calculator
