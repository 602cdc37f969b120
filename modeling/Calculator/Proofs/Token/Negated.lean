import Calculator.Expression
import Calculator.Token.Negation
import Mathlib.Data.Set.Basic

/-!
# Places of negations

Minus signs are resolved from left to right, each by the token in front of it as it has become by
then. What became of that token does not matter, because an operator stays an operator. So the signs
that negate can be told from the tokens as they were written, and they may be resolved all at once
or one after the other in any order, some of them repeatedly.
-/

namespace Calculator.Token

/-- The kind of the token in front of a place; in front of the first one stands `previous`. -/
def kindBefore? (previous : Option Kind) (tokens : List Token) : Nat → Option Kind
  | 0 => previous
  | i + 1 => tokens[i]?.map kind

/-- The tokens with the one at a place resolved by what stands in front of it. -/
def resolveAt (options : Options) (tokens : List Token) (i : Nat) : List Token :=
  tokens.modify i (resolveAfter options (kindBefore? none tokens i))

/-- Whether a minus sign without a left operand stands at a place: it is the first token, or an
operator, an opening parenthesis or, if the options say so, a closing one stands in front of it. -/
def LacksLeftOperand (options : Options) (tokens : List Token) (i : Nat) : Prop :=
  ∃ minus, tokens[i]? = some minus ∧ minus.isSubtraction = true ∧
    (i = 0 ∨ ∃ previous, tokens[i - 1]? = some previous ∧
      ((∃ op, previous.kind = .operator op) ∨ previous.kind = .opening ∨
        (previous.kind = .closing ∧ options.subtractAfterClosing = false)))

/-- The places of the tokens that are made something else when minus signs are resolved. -/
def changed (options : Options) (tokens : List Token) : Set Nat :=
  {i | (resolve options tokens)[i]?.map kind ≠ tokens[i]?.map kind}

variable {options : Options} {tokens : List Token}

section ResolveAfter

variable {previous other : Option Kind}

/-- Whether a minus sign negates does not depend on what became of the token in front of it. -/
theorem negatesAfter_resolveAfter (options other : Options) (previous : Option Kind)
    (token : Token) :
    negatesAfter options (some (resolveAfter other previous token).kind) =
      negatesAfter options (some token.kind) := by
  obtain ⟨kind, text, position⟩ := token
  cases kind with
  | operand | opening | closing => rfl
  | operator op =>
    unfold resolveAfter
    split <;> rfl

/-- What becomes of a token depends only on whether a minus sign would negate in its place. -/
theorem resolveAfter_congr (hsame : negatesAfter options previous = negatesAfter options other) :
    resolveAfter options previous = resolveAfter options other := by
  funext token
  rw [resolveAfter, resolveAfter, hsame]

/-- A resolved token has the text that it had before. -/
@[simp] theorem text_resolveAfter (options : Options) (previous : Option Kind) (token : Token) :
    (resolveAfter options previous token).text = token.text := by
  unfold resolveAfter
  split <;> rfl

/-- A resolved token stands where it stood before. -/
@[simp] theorem position_resolveAfter (options : Options) (previous : Option Kind)
    (token : Token) : (resolveAfter options previous token).position = token.position := by
  unfold resolveAfter
  split <;> rfl

/-- A token is made negation or has the kind that it had before. -/
theorem kind_resolveAfter_cases (options : Options) (previous : Option Kind) (token : Token) :
    (resolveAfter options previous token).kind = .operator Operator.negation ∨
      (resolveAfter options previous token).kind = token.kind := by
  unfold resolveAfter
  split
  · exact .inl rfl
  · exact .inr rfl

/-- A resolved token stays what it is. -/
theorem resolveAfter_resolveAfter (options : Options) (previous : Option Kind) (token : Token) :
    resolveAfter options previous (resolveAfter options previous token) =
      resolveAfter options previous token := by
  by_cases hnegates : (token.isSubtraction && negatesAfter options previous) = true
  · have hnegation : resolveAfter options previous token =
        { token with kind := .operator Operator.negation } := if_pos hnegates
    rw [hnegation]
    rfl
  · have hkept : resolveAfter options previous token = token := if_neg hnegates
    rw [hkept, hkept]

/-- The kind of a token changes just if it is a minus sign that negates. -/
theorem kind_resolveAfter_ne_iff {token : Token} :
    (resolveAfter options previous token).kind ≠ token.kind ↔
      token.isSubtraction = true ∧ negatesAfter options previous = true := by
  rw [← Bool.and_eq_true]
  constructor
  · intro hchanged
    by_contra hkept
    exact hchanged (congrArg kind (if_neg hkept))
  · intro hnegates hkind
    have hnegation : (resolveAfter options previous token).kind = .operator Operator.negation :=
      congrArg kind (if_pos hnegates)
    rw [Bool.and_eq_true, isSubtraction, ← hkind, hnegation] at hnegates
    exact absurd hnegates.1 (by decide)

end ResolveAfter

/-- Every token is resolved by what was written in front of it. -/
theorem getElem?_resolveFrom (options : Options) (previous : Option Kind) (tokens : List Token)
    (i : Nat) :
    (resolveFrom options previous tokens)[i]? =
      tokens[i]?.map (resolveAfter options (kindBefore? previous tokens i)) := by
  induction tokens generalizing previous i with
  | nil => rfl
  | cons token rest ih =>
    cases i with
    | zero => rfl
    | succ i =>
      rw [resolveFrom, List.getElem?_cons_succ, List.getElem?_cons_succ, ih]
      refine congrArg (Option.map · rest[i]?) (resolveAfter_congr ?_)
      cases i with
      | zero => exact negatesAfter_resolveAfter options options previous token
      | succ i => rfl

/-- All tokens may be resolved at once, each by what was written in front of it. -/
theorem resolve_eq_mapIdx (options : Options) (tokens : List Token) :
    resolve options tokens =
      tokens.mapIdx fun i => resolveAfter options (kindBefore? none tokens i) := by
  refine List.ext_getElem? fun i => ?_
  rw [resolve, getElem?_resolveFrom, List.getElem?_mapIdx]

/-- Resolving minus signs keeps the number of tokens. -/
theorem length_resolve (options : Options) (tokens : List Token) :
    (resolve options tokens).length = tokens.length := by
  rw [resolve_eq_mapIdx, List.length_mapIdx]

/-- Resolving one token leaves the others as they are. -/
theorem getElem?_resolveAt (options : Options) (tokens : List Token) (place i : Nat) :
    (resolveAt options tokens place)[i]? = tokens[i]?.map fun token =>
      if place = i then resolveAfter options (kindBefore? none tokens i) token else token := by
  rw [resolveAt, List.getElem?_modify]
  split
  · rename_i hplace
    rw [hplace]
    rfl
  · rfl

/-- Whether a minus sign negates in a place does not depend on which tokens have been resolved. -/
theorem negatesAfter_kindBefore?_resolveAt (options : Options) (tokens : List Token)
    (place i : Nat) :
    negatesAfter options (kindBefore? none (resolveAt options tokens place) i) =
      negatesAfter options (kindBefore? none tokens i) := by
  cases i with
  | zero => rfl
  | succ i =>
    rw [kindBefore?, kindBefore?, getElem?_resolveAt]
    cases tokens[i]? with
    | none => rfl
    | some token =>
      simp only [Option.map_some]
      split
      · exact negatesAfter_resolveAfter options options _ token
      · rfl

/-- When tokens have been resolved at some places, each is what it becomes by what was written in
front of it, or has been left alone. -/
theorem getElem?_foldl_resolveAt (options : Options) (places : List Nat) (tokens : List Token)
    (i : Nat) :
    (places.foldl (resolveAt options) tokens)[i]? = tokens[i]?.map fun token =>
      if i ∈ places then resolveAfter options (kindBefore? none tokens i) token else token := by
  induction places generalizing tokens with
  | nil => simp
  | cons place rest ih =>
    have hbefore := resolveAfter_congr (negatesAfter_kindBefore?_resolveAt options tokens place i)
    rw [List.foldl_cons, ih, hbefore, getElem?_resolveAt, Option.map_map]
    refine congrArg (Option.map · tokens[i]?) (funext fun token => ?_)
    simp only [Function.comp_apply, List.mem_cons, eq_comm (a := i)]
    by_cases hplace : place = i <;> by_cases hrest : i ∈ rest <;>
      simp [hplace, hrest, resolveAfter_resolveAfter]

/-- Tokens that are resolved in place, in any order and possibly repeatedly, are resolved as they
are from left to right, if none is left out. -/
theorem foldl_resolveAt {places : List Nat} (hplaces : ∀ i < tokens.length, i ∈ places) :
    places.foldl (resolveAt options) tokens = resolve options tokens := by
  refine List.ext_getElem? fun i => ?_
  rw [getElem?_foldl_resolveAt, resolve, getElem?_resolveFrom]
  cases htoken : tokens[i]? with
  | none => rfl
  | some token =>
    have hi : i ∈ places := hplaces i (List.getElem?_eq_some_iff.mp htoken).1
    simp only [hi, if_true]

/-- Resolving the tokens once more is resolving some of them repeatedly, so it changes nothing. -/
theorem resolve_resolve (options : Options) (tokens : List Token) :
    resolve options (resolve options tokens) = resolve options tokens := by
  let places := List.range tokens.length
  have hplaces : ∀ i < tokens.length, i ∈ places := fun i hi => List.mem_range.mpr hi
  have hagain : ∀ i < (resolve options tokens).length, i ∈ places := fun i hi =>
    hplaces i (length_resolve options tokens ▸ hi)
  calc resolve options (resolve options tokens)
      = places.foldl (resolveAt options) (places.foldl (resolveAt options) tokens) := by
        rw [foldl_resolveAt hplaces, foldl_resolveAt hagain]
    _ = (places ++ places).foldl (resolveAt options) tokens := List.foldl_append.symm
    _ = resolve options tokens :=
        foldl_resolveAt fun i hi => List.mem_append_left _ (hplaces i hi)

/-- A minus sign lacks a left operand if it negates behind what is written in front of it. -/
theorem lacksLeftOperand_iff {i : Nat} {token : Token} (htoken : tokens[i]? = some token) :
    LacksLeftOperand options tokens i ↔
      token.isSubtraction = true ∧ negatesAfter options (kindBefore? none tokens i) = true := by
  have hminus : LacksLeftOperand options tokens i ↔ token.isSubtraction = true ∧
      (i = 0 ∨ ∃ previous, tokens[i - 1]? = some previous ∧
        ((∃ op, previous.kind = .operator op) ∨ previous.kind = .opening ∨
          (previous.kind = .closing ∧ options.subtractAfterClosing = false))) := by
    simp [LacksLeftOperand, htoken]
  rw [hminus]
  refine and_congr_right fun _ => ?_
  cases i with
  | zero => simp [kindBefore?, negatesAfter]
  | succ i =>
    have hi : i < tokens.length := by
      have := (List.getElem?_eq_some_iff.mp htoken).1
      omega
    rw [Nat.add_sub_cancel, kindBefore?, List.getElem?_eq_getElem hi]
    cases hkind : tokens[i].kind <;> simp [negatesAfter, hkind]

/-- The tokens that change are the minus signs without a left operand. -/
theorem mem_changed_iff {i : Nat} :
    i ∈ changed options tokens ↔ LacksLeftOperand options tokens i := by
  have hkinds : i ∈ changed options tokens ↔
      (resolve options tokens)[i]?.map kind ≠ tokens[i]?.map kind := Iff.rfl
  rw [hkinds, resolve, getElem?_resolveFrom]
  cases htoken : tokens[i]? with
  | none => simp [LacksLeftOperand, htoken]
  | some token =>
    rw [lacksLeftOperand_iff htoken, ← kind_resolveAfter_ne_iff]
    simp

/-- Where minus signs behind closing parentheses subtract, none negates that would not negate
otherwise. -/
theorem LacksLeftOperand.mono {first second : Options} {i : Nat}
    (hoptions : second.subtractAfterClosing = true → first.subtractAfterClosing = true)
    (hlacks : LacksLeftOperand first tokens i) : LacksLeftOperand second tokens i := by
  obtain ⟨minus, hminus, hsubtraction, hstart | ⟨previous, hprevious, hkind⟩⟩ := hlacks
  · exact ⟨minus, hminus, hsubtraction, .inl hstart⟩
  · refine ⟨minus, hminus, hsubtraction, .inr ⟨previous, hprevious, ?_⟩⟩
    refine hkind.imp_right (Or.imp_right (And.imp_right fun hfirst => ?_))
    cases hsecond : second.subtractAfterClosing with
    | false => rfl
    | true => rw [hoptions hsecond] at hfirst; cases hfirst

/-- Resolving keeps the number of tokens and the text and the position of each. It makes negations of
the minus signs that have no left operand in the tokens as they were written, and of no other tokens.
So the tokens may be resolved all at once, or in place one after the other in any order and
repeatedly, as long as none is left out, and what is resolved stays as it is. The minus signs that
negate when those behind closing parentheses subtract negate when those do not, too. -/
theorem resolve_simultaneous (options : Options) (tokens : List Token) :
    (resolve options tokens).length = tokens.length ∧
    (∀ i token, tokens[i]? = some token → ∃ resolved, (resolve options tokens)[i]? = some resolved ∧
      resolved.text = token.text ∧ resolved.position = token.position ∧
      (resolved.kind ≠ token.kind ↔ LacksLeftOperand options tokens i) ∧
      (resolved.kind ≠ token.kind → resolved.kind = .operator Operator.negation)) ∧
    resolve options tokens =
      tokens.mapIdx (fun i => resolveAfter options (kindBefore? none tokens i)) ∧
    (∀ places : List Nat, (∀ i < tokens.length, i ∈ places) →
      places.foldl (resolveAt options) tokens = resolve options tokens) ∧
    resolve options (resolve options tokens) = resolve options tokens ∧
    changed { options with subtractAfterClosing := true } tokens ⊆
      changed { options with subtractAfterClosing := false } tokens := by
  have hresolved (i : Nat) : (resolve options tokens)[i]? =
      tokens[i]?.map (resolveAfter options (kindBefore? none tokens i)) :=
    getElem?_resolveFrom options none tokens i
  refine ⟨length_resolve options tokens, fun i token htoken => ?_,
    resolve_eq_mapIdx options tokens,
    fun places hplaces => foldl_resolveAt hplaces, resolve_resolve options tokens, fun i hi => ?_⟩
  · refine ⟨_, by rw [hresolved, htoken]; rfl, text_resolveAfter _ _ token,
      position_resolveAfter _ _ token, ?_, fun hchanged => ?_⟩
    · rw [lacksLeftOperand_iff htoken, kind_resolveAfter_ne_iff]
    · exact (kind_resolveAfter_cases _ _ token).resolve_right hchanged
  · rw [mem_changed_iff] at hi ⊢
    exact hi.mono nofun

/-- Of the two minus signs behind the parenthesis the first one negates or subtracts as the options
say, and the second one negates in any case. Resolving them from right to left makes no
difference. -/
theorem resolve_simultaneous_twoMinusSigns :
    let tokens := Expression.tokens {} "(2)--3"
    let subtracts : Options := { subtractAfterClosing := true }
    [5, 4, 3, 2, 1, 0].foldl (resolveAt subtracts) tokens = resolve subtracts tokens ∧
      3 ∉ changed subtracts tokens ∧ 4 ∈ changed subtracts tokens ∧ 4 ∈ changed {} tokens ∧
      (resolve {} tokens)[3]? = some ⟨.operator Operator.negation, "-", 3⟩ := by
  intro tokens subtracts
  obtain ⟨-, hkept, -, -, -, hsubset⟩ := resolve_simultaneous {} tokens
  obtain ⟨-, -, -, hplaces, -, -⟩ := resolve_simultaneous subtracts tokens
  have hclosing : tokens[2]? = some ⟨.closing, ")", 2⟩ := by decide +kernel
  have hminus : tokens[3]? = some ⟨.operator ⟨'-', 2, 2, .left⟩, "-", 3⟩ := by decide +kernel
  have hlacks : LacksLeftOperand {} tokens 3 :=
    ⟨_, hminus, rfl, .inr ⟨_, hclosing, .inr (.inr ⟨rfl, rfl⟩)⟩⟩
  have hsubtracts : 3 ∉ changed subtracts tokens := not_not.mpr (by decide +kernel)
  have hnegates : 4 ∈ changed subtracts tokens :=
    show (resolve subtracts tokens)[4]?.map kind ≠ tokens[4]?.map kind by decide +kernel
  obtain ⟨⟨kind, text, position⟩, hresolved, htext, hposition, hchanged, hnegation⟩ :=
    hkept 3 _ hminus
  obtain rfl : text = "-" := htext
  obtain rfl : position = 3 := hposition
  obtain rfl : kind = .operator Operator.negation := hnegation (hchanged.mpr hlacks)
  exact ⟨hplaces _ (by decide +kernel), hsubtracts, hnegates, hsubset hnegates, hresolved⟩

end Calculator.Token
