import Calculator.Proofs.Postfix.Moved
import Calculator.Proofs.Postfix.Order
import Calculator.Proofs.Postfix.Unclosed

/-!
# Places of tokens in the postfix form

Tokens that look alike can stand at several places of a list, so what becomes of each of them is
said of places: the postfix form holds the tokens of some places of the list, each of them once.
To find the places, the tokens are numbered in the field in which the conversion carries their
positions along.
-/

namespace Calculator

namespace Token

/-- Which parentheses stay open does not depend on positions. -/
theorem unclosedFrom_map_moved (move : Nat → Nat) (opened : List Nat) (place : Nat)
    (tokens : List Token) :
    unclosedFrom opened place (tokens.map (moved move)) = unclosedFrom opened place tokens := by
  induction tokens generalizing opened place with
  | nil => rfl
  | cons token rest ih =>
    obtain ⟨kind, text, position⟩ := token
    cases kind <;> exact ih _ _

/-- The tokens with their places in the list for positions. -/
def numbered (tokens : List Token) : List Token :=
  tokens.mapIdx fun i token => { token with position := i }

/-- The position of the token at a place of the list. -/
def positionAt (tokens : List Token) (i : Nat) : Nat :=
  (tokens[i]?.map position).getD 0

/-- Numbered tokens are the tokens at other positions. -/
theorem map_moved_numbered (tokens : List Token) :
    (numbered tokens).map (moved (positionAt tokens)) = tokens := by
  refine List.ext_getElem? fun i => ?_
  rw [List.getElem?_map, numbered, List.getElem?_mapIdx]
  cases hplace : tokens[i]? with
  | none => rfl
  | some token => simp [moved, positionAt, hplace]

/-- A numbered token shows the place that it has in the list. -/
theorem getElem?_position {tokens : List Token} {token : Token} (htoken : token ∈ numbered tokens) :
    tokens[token.position]? = some (token.moved (positionAt tokens)) := by
  obtain ⟨i, hi⟩ := List.mem_iff_getElem?.mp htoken
  rw [numbered, List.getElem?_mapIdx] at hi
  obtain ⟨original, horiginal, rfl⟩ := Option.map_eq_some_iff.mp hi
  simp [moved, positionAt, horiginal]

/-- The token of every place is among the numbered ones. -/
theorem mem_numbered {tokens : List Token} {token : Token} {i : Nat} (hi : tokens[i]? = some token) :
    { token with position := i } ∈ numbered tokens := by
  refine List.mem_iff_getElem?.mpr ⟨i, ?_⟩
  rw [numbered, List.getElem?_mapIdx, hi]
  rfl

/-- The places of numbered tokens are consecutive. -/
theorem map_position_numbered (tokens : List Token) :
    (numbered tokens).map position = List.range' 0 tokens.length := by
  refine List.ext_getElem? fun i => ?_
  rw [List.getElem?_map, numbered, List.getElem?_mapIdx, ← List.range_eq_range']
  by_cases hi : i < tokens.length
  · simp [hi]
  · simp [Nat.not_lt.mp hi]

end Token

namespace Postfix

open Token

variable {strict : Bool} {pending tokens form : List Token}

/-- The tokens of a postfix form are pending ones or others than closing parentheses. -/
theorem Arranges.kind_ne_closing (harranges : Arranges strict pending tokens form)
    (hpending : ∀ top ∈ pending, top.kind ≠ .closing) : ∀ token ∈ form, token.kind ≠ .closing := by
  intro token htoken
  obtain ⟨partners, -, hperm⟩ := harranges.exists_partners
  rcases List.mem_append.mp (hperm.subset (List.mem_append_left _ htoken)) with hmem | hmem
  · exact hpending token hmem
  · simpa using (List.mem_filter.mp hmem).2

/-- The opening parentheses of a postfix form are those that stay open. -/
theorem Arranges.map_position_filter_isOpening {opened : List Nat} {place : Nat}
    (harranges : Arranges strict pending tokens form)
    (hopened : (pending.filter (·.isOpening)).map position = opened)
    (hplaces : tokens.map position = List.range' place tokens.length) :
    (form.filter (·.isOpening)).map position = unclosedFrom opened place tokens := by
  induction harranges generalizing opened place with
  | done => exact hopened
  | @operand pending rest form token hkind hrest ih =>
    obtain ⟨-, hlater⟩ := List.cons_eq_cons.mp hplaces
    rw [List.filter_cons_of_neg (by simp [isOpening, hkind]), ih hopened hlater]
    simp only [unclosedFrom, hkind]
  | @opening pending rest form token hkind hrest ih =>
    obtain ⟨hplace, hlater⟩ := List.cons_eq_cons.mp hplaces
    have hinner : ((token :: pending).filter (·.isOpening)).map position = place :: opened := by
      rw [List.filter_cons_of_pos (by simp [isOpening, hkind]), List.map_cons, hplace, hopened]
    rw [ih hinner hlater]
    simp only [unclosedFrom, hkind]
  | @closing group below rest form token partner hkind hgroup hpartner hrest ih =>
    obtain ⟨-, hlater⟩ := List.cons_eq_cons.mp hplaces
    rw [filter_append_of_forall hgroup] at hopened ⊢
    rw [List.filter_cons_of_pos hpartner] at hopened
    subst hopened
    rw [ih rfl hlater]
    simp only [unclosedFrom, hkind, List.map_cons, List.tail_cons]
  | @stray pending rest form token hkind hstrict hnone hrest ih =>
    obtain ⟨-, hlater⟩ := List.cons_eq_cons.mp hplaces
    have hempty := filter_append_of_forall hnone []
    rw [List.append_nil, List.filter_nil] at hempty
    rw [hempty] at hopened
    subst hopened
    rw [filter_append_of_forall hnone, ih rfl hlater]
    simp only [unclosedFrom, hkind, List.map_nil, List.filter_nil, List.tail_nil]
  | @operator blocking below rest form token op hkind hblocking hbelow hrest ih =>
    obtain ⟨-, hlater⟩ := List.cons_eq_cons.mp hplaces
    have hnone : ∀ top ∈ blocking, top.isOpening = false := fun top htop =>
      isOpening_of_isBlockedBy (hblocking top htop)
    rw [filter_append_of_forall hnone] at hopened ⊢
    rw [← List.filter_cons_of_neg (a := token) (by simp [isOpening, hkind])] at hopened
    rw [ih hopened hlater]
    simp only [unclosedFrom, hkind]

/-- A token may be put in front of another one unless the other one is an operand that stood in
front of it. -/
def MayPrecede (first second : Token) : Prop :=
  second.isOperand = true → first.position < second.position

/-- Tokens that are no operands may precede each other. -/
theorem pairwise_mayPrecede (hpending : ∀ top ∈ pending, top.isOperand = false) :
    pending.Pairwise MayPrecede := by
  refine List.pairwise_of_forall_mem_list fun first _ second hsecond hoperand => ?_
  rw [hpending second hsecond] at hoperand
  cases hoperand

/-- What is released in front of tokens that stood behind it may precede their postfix form. -/
theorem Arranges.pairwise_append {released : List Token}
    (harranges : Arranges strict pending tokens form)
    (hpending : ∀ top ∈ pending, top.isOperand = false)
    (hreleased : released.Pairwise MayPrecede)
    (hbefore : ∀ first ∈ released, ∀ token ∈ tokens, first.position < token.position)
    (hform : form.Pairwise MayPrecede) : (released ++ form).Pairwise MayPrecede := by
  refine List.pairwise_append.mpr ⟨hreleased, hform, fun first hfirst second hsecond hoperand => ?_⟩
  have hmem : second ∈ form.filter isOperand := List.mem_filter.mpr ⟨hsecond, hoperand⟩
  rw [harranges.filter_isOperand hpending] at hmem
  exact hbefore first hfirst second (List.mem_of_mem_filter hmem)

/-- Nothing that stood behind an operand stands in front of it in the postfix form. -/
theorem Arranges.pairwise (harranges : Arranges strict pending tokens form)
    (hpending : ∀ top ∈ pending, top.isOperand = false)
    (hbefore : ∀ top ∈ pending, ∀ token ∈ tokens, top.position < token.position)
    (htokens : tokens.Pairwise (·.position < ·.position)) : form.Pairwise MayPrecede := by
  induction harranges with
  | done => exact pairwise_mayPrecede hpending
  | @operand pending rest form token hkind hrest ih =>
    obtain ⟨hahead, hordered⟩ := List.pairwise_cons.mp htokens
    have hlater : ∀ top ∈ pending, ∀ token ∈ rest, top.position < token.position :=
      fun top htop => (List.forall_mem_cons.mp (hbefore top htop)).2
    have hone : [token].Pairwise MayPrecede := List.pairwise_singleton _ _
    exact hrest.pairwise_append hpending hone (List.forall_mem_singleton.mpr hahead)
      (ih hpending hlater hordered)
  | @opening pending rest form token hkind hrest ih =>
    obtain ⟨hahead, hordered⟩ := List.pairwise_cons.mp htokens
    refine ih (List.forall_mem_cons.mpr ⟨by simp [isOperand, hkind], hpending⟩)
      (List.forall_mem_cons.mpr ⟨hahead, fun top htop => ?_⟩) hordered
    exact (List.forall_mem_cons.mp (hbefore top htop)).2
  | @closing group below rest form token partner hkind hgroup hpartner hrest ih =>
    obtain ⟨-, hordered⟩ := List.pairwise_cons.mp htokens
    obtain ⟨hinside, -, hbelow⟩ := List.forall_mem_append.mp hpending |>.imp_right
      List.forall_mem_cons.mp
    have hlater : ∀ top ∈ group ++ partner :: below, ∀ token ∈ rest,
        top.position < token.position :=
      fun top htop => (List.forall_mem_cons.mp (hbefore top htop)).2
    obtain ⟨hgroup, -, hrest'⟩ := List.forall_mem_append.mp hlater |>.imp_right
      List.forall_mem_cons.mp
    exact hrest.pairwise_append hbelow (pairwise_mayPrecede hinside) hgroup
      (ih hbelow hrest' hordered)
  | @stray pending rest form token hkind hstrict hnone hrest ih =>
    obtain ⟨-, hordered⟩ := List.pairwise_cons.mp htokens
    have hlater : ∀ top ∈ pending, ∀ token ∈ rest, top.position < token.position :=
      fun top htop => (List.forall_mem_cons.mp (hbefore top htop)).2
    exact hrest.pairwise_append (List.forall_mem_nil _) (pairwise_mayPrecede hpending) hlater
      (ih (List.forall_mem_nil _) (List.forall_mem_nil _) hordered)
  | @operator blocking below rest form token op hkind hblocking hbelow hrest ih =>
    obtain ⟨hahead, hordered⟩ := List.pairwise_cons.mp htokens
    obtain ⟨hreleased, hkept⟩ := List.forall_mem_append.mp hpending
    have hlater : ∀ top ∈ blocking ++ below, ∀ token ∈ rest, top.position < token.position :=
      fun top htop => (List.forall_mem_cons.mp (hbefore top htop)).2
    obtain ⟨hfirst, hsecond⟩ := List.forall_mem_append.mp hlater
    have hleft : ∀ top ∈ token :: below, top.isOperand = false :=
      List.forall_mem_cons.mpr ⟨by simp [isOperand, hkind], hkept⟩
    exact hrest.pairwise_append hleft (pairwise_mayPrecede hreleased) hfirst
      (ih hleft (List.forall_mem_cons.mpr ⟨hahead, hsecond⟩) hordered)

/-- The tokens of `form` are those of `tokens` at `places`, in this order: every operand, every
operator and every opening parenthesis without a partner, each of them once. -/
structure Rearranges (tokens form : List Token) (places : List Nat) : Prop where
  form_eq : form.map some = places.map (tokens[·]?)
  nodup : places.Nodup
  mem_iff (i : Nat) : i ∈ places ↔
    (∃ token, tokens[i]? = some token ∧ token.isKept = true) ∨ i ∈ unclosed tokens
  /-- What stands in front of an operand was in front of it before, too. -/
  in_front : places.Pairwise fun i j =>
    (∃ operand, tokens[j]? = some operand ∧ operand.isOperand = true) → i < j

/-- A postfix form has no closing parentheses: neither are they kept nor do they stay open. -/
theorem Rearranges.kind_ne_closing {places : List Nat} (hform : Rearranges tokens form places) :
    ∀ token ∈ form, token.kind ≠ .closing := by
  intro token htoken hclosing
  have hmem : some token ∈ form.map some := List.mem_map_of_mem htoken
  rw [hform.form_eq] at hmem
  obtain ⟨i, hi, hplace⟩ := List.mem_map.mp hmem
  rcases (hform.mem_iff i).mp hi with ⟨same, hsame, hkept⟩ | hopen
  · obtain rfl := Option.some.inj (hsame.symm.trans hplace)
    simp [isKept, hclosing] at hkept
  · obtain ⟨same, hsame, hopening, -⟩ := mem_unclosed_iff.mp hopen
    obtain rfl := Option.some.inj (hsame.symm.trans hplace)
    rw [hclosing] at hopening
    cases hopening

/-- A conversion of tokens is one of the numbered tokens. -/
theorem arrange_numbered (harrange : arrange strict [] tokens = .ok form) :
    ∃ placed, Arranges strict [] (numbered tokens) placed ∧
      form = placed.map (Token.moved (positionAt tokens)) := by
  have hmoved := arrange_map_moved (positionAt tokens) strict [] (numbered tokens)
  rw [map_moved_numbered, List.map_nil, harrange] at hmoved
  cases hplaced : arrange strict [] (numbered tokens) with
  | error failure =>
    rw [hplaced] at hmoved
    cases hmoved
  | ok placed =>
    rw [hplaced] at hmoved
    exact ⟨placed, arranges_of_arrange hplaced, Except.ok.inj hmoved⟩

/-- The numbers in the postfix form of numbered tokens are the places of its tokens. -/
theorem rearranges_of_arranges {placed : List Token}
    (harranges : Arranges strict [] (numbered tokens) placed) :
    Rearranges tokens (placed.map (Token.moved (positionAt tokens))) (placed.map position) := by
  have hnumbered : ∀ token ∈ placed, token ∈ numbered tokens := fun token htoken =>
    (harranges.mem_or_mem token htoken).resolve_left List.not_mem_nil
  have hkept {token : Token} (htoken : token.isKept = true) :
      token ∈ placed ↔ token ∈ numbered tokens := by
    have hmem := harranges.perm.mem_iff (a := token)
    simpa [List.mem_filter, htoken] using hmem
  have hopen : (placed.filter (·.isOpening)).map position = unclosed tokens := by
    have hplaces := map_position_numbered tokens
    have hlength : (numbered tokens).length = tokens.length := List.length_mapIdx
    rw [← hlength] at hplaces
    rw [harranges.map_position_filter_isOpening rfl hplaces,
      ← unclosedFrom_map_moved (positionAt tokens), map_moved_numbered]
    rfl
  constructor
  case form_eq =>
    rw [List.map_map, List.map_map]
    exact List.map_congr_left fun token htoken =>
      (getElem?_position (hnumbered token htoken)).symm
  case nodup =>
    obtain ⟨partners, -, hperm⟩ := harranges.exists_partners
    have hall : ((numbered tokens).map position).Nodup := by
      rw [map_position_numbered]
      exact List.nodup_range'
    rw [List.nil_append] at hperm
    have hsome := ((List.filter_sublist (p := (·.kind != .closing))).map position).nodup hall
    rw [← (hperm.map position).nodup_iff, List.map_append] at hsome
    exact (List.nodup_append.mp hsome).1
  case mem_iff =>
    intro i
    rw [← hopen]
    constructor
    · intro hi
      obtain ⟨token, htoken, rfl⟩ := List.mem_map.mp hi
      by_cases hopening : token.isOpening = true
      · exact .inr (List.mem_map_of_mem (List.mem_filter.mpr ⟨htoken, hopening⟩))
      · have hclosing := harranges.kind_ne_closing (List.forall_mem_nil _) token htoken
        refine .inl ⟨_, getElem?_position (hnumbered token htoken), ?_⟩
        obtain ⟨kind, text, position⟩ := token
        cases kind <;> first | rfl | exact absurd rfl hopening | exact absurd rfl hclosing
    · rintro (⟨token, hi, htoken⟩ | hi)
      · have hkeptHere : Token.isKept { token with position := i } = true := htoken
        exact List.mem_map.mpr ⟨_, (hkept hkeptHere).mpr (mem_numbered hi), rfl⟩
      · obtain ⟨token, htoken, rfl⟩ := List.mem_map.mp hi
        exact List.mem_map_of_mem (List.mem_of_mem_filter htoken)
  case in_front =>
    have hordered : (numbered tokens).Pairwise (·.position < ·.position) := by
      rw [← List.pairwise_map (f := position) (R := (· < ·)), map_position_numbered]
      exact List.pairwise_lt_range'
    refine List.pairwise_map.mpr ?_
    refine (harranges.pairwise (List.forall_mem_nil _) (List.forall_mem_nil _) hordered).imp_of_mem ?_
    rintro first second - hsecond hprecede ⟨operand, hplace, hoperand⟩
    rw [getElem?_position (hnumbered second hsecond)] at hplace
    obtain rfl := Option.some.inj hplace
    exact hprecede hoperand

/-- The conversion to postfix form neither loses nor invents nor alters a token: what it gives are
the operands in their order, each operator behind all operands that are written before it, and the
opening parentheses without a partner, at the places where they stood. -/
theorem ofTokens_rearranges {options : Options} {tokens form : List Token}
    (hform : ofTokens options tokens = .ok form) :
    (∃ places, Rearranges tokens form places) ∧ ∀ token ∈ form, token.kind ≠ .closing := by
  obtain ⟨placed, harranges, rfl⟩ := arrange_numbered hform
  have hplaced := rearranges_of_arranges harranges
  exact ⟨⟨_, hplaced⟩, hplaced.kind_ne_closing⟩

/-- The tokens of `x + y) * (x`, where an operand stands twice and no parenthesis has a partner. -/
def unbalancedProduct : List Token :=
  [⟨.operand, "x", 0⟩, ⟨.operator ⟨'+', 2, 2, .left⟩, "+", 2⟩, ⟨.operand, "y", 4⟩,
    ⟨.closing, ")", 5⟩, ⟨.operator ⟨'*', 3, 2, .left⟩, "*", 7⟩, ⟨.opening, "(", 9⟩,
    ⟨.operand, "x", 10⟩]

/-- Of two parentheses without a partner the closing one is left out and the opening one is kept;
equal operands are told apart by their places. -/
theorem ofTokens_rearranges_unbalancedProduct :
    ∃ form, ofTokens {} unbalancedProduct = .ok form ∧
      (∃ places, Rearranges unbalancedProduct form places) ∧
      ∀ token ∈ form, token.kind ≠ .closing := by
  obtain ⟨form, hform⟩ : ∃ form, ofTokens {} unbalancedProduct = .ok form := ⟨_, rfl⟩
  exact ⟨form, hform, ofTokens_rearranges hform⟩

end Postfix

end Calculator
