import Calculator.Proofs.Postfix.Arrange

/-!
# Conversion of tokens at other places

The conversion to postfix form carries the places of tokens along and looks at none of them. So
tokens that stand elsewhere are arranged in the same order, and a failure points at the place where
the same parenthesis stands.
-/

namespace Calculator

/-- The token where `move` puts it. -/
def Token.moved (move : Nat → Nat) (token : Token) : Token :=
  { token with position := move token.position }

/-- The failure that points where `move` puts the token that it points at. -/
def Failure.moved (move : Nat → Nat) : Failure → Failure
  | noValue => noValue
  | unknownOperand text position => unknownOperand text (move position)
  | tooFewOperands symbol position expected found =>
    tooFewOperands symbol (move position) expected found
  | strayParenthesis position found => strayParenthesis (move position) found
  | zeroDivisor position => zeroDivisor (move position)
  | outOfRange symbol position => outOfRange symbol (move position)
  | tooManyValues count => tooManyValues count

namespace Postfix

/-- The outcome of a conversion with all places moved. -/
def moved (move : Nat → Nat) (outcome : Except Failure (List Token)) :
    Except Failure (List Token) :=
  (List.map (Token.moved move) <$> outcome).mapError (Failure.moved move)

variable (move : Nat → Nat)

/-- What is put out first is moved, too. -/
theorem moved_append (released : List Token) (outcome : Except Failure (List Token)) :
    moved move ((released ++ ·) <$> outcome) =
      (released.map (Token.moved move) ++ ·) <$> moved move outcome := by
  cases outcome with
  | error failure => rfl
  | ok form => exact congrArg Except.ok List.map_append

/-- What is pending at the end is moved, too. -/
theorem release_map_moved (strict : Bool) (pending : List Token) :
    release strict (pending.map (Token.moved move)) = moved move (release strict pending) := by
  have hfind : (pending.map (Token.moved move)).find? (·.isOpening) =
      (pending.find? (·.isOpening)).map (Token.moved move) := List.find?_map
  rw [release, release, hfind]
  cases strict with
  | false => rfl
  | true => cases pending.find? (·.isOpening) <;> rfl

/-- The conversion to postfix form does not look at places. -/
theorem arrange_map_moved (strict : Bool) (pending tokens : List Token) :
    arrange strict (pending.map (Token.moved move)) (tokens.map (Token.moved move)) =
      moved move (arrange strict pending tokens) := by
  have hopening {tops : List Token} (htops : ∀ top ∈ tops, top.isOpening = false) :
      ∀ top ∈ tops.map (Token.moved move), top.isOpening = false :=
    List.forall_mem_map.mpr htops
  induction tokens generalizing pending with
  | nil => rw [List.map_nil, arrange_nil, arrange_nil, release_map_moved]
  | cons token rest ih =>
    rw [List.map_cons]
    cases hkind : token.kind with
    | operand =>
      have hmoved : (token.moved move).kind = .operand := hkind
      rw [arrange_operand hkind, arrange_operand hmoved, ih]
      exact (moved_append move [token] _).symm
    | opening =>
      have hmoved : (token.moved move).kind = .opening := hkind
      rw [arrange_opening hkind, arrange_opening hmoved, ← List.map_cons, ih]
    | closing =>
      have hmoved : (token.moved move).kind = .closing := hkind
      rcases isOpening_cases pending with
        hnone | ⟨group, partner, below, rfl, hgroup, hpartner⟩
      · rw [arrange_stray hkind hnone, arrange_stray hmoved (hopening hnone)]
        cases strict with
        | true => rfl
        | false => exact (congrArg _ (ih [])).trans (moved_append move pending _).symm
      · have hother : (partner.moved move).isOpening = true := hpartner
        rw [List.map_append, List.map_cons, arrange_closing hkind hgroup hpartner,
          arrange_closing hmoved (hopening hgroup) hother, ih, moved_append]
    | operator op =>
      have hmoved : (token.moved move).kind = .operator op := hkind
      obtain ⟨blocking, below, rfl, hblocking, hbelow⟩ := exists_span (isBlockedBy op) pending
      have hblocking' : ∀ top ∈ blocking.map (Token.moved move), isBlockedBy op top = true :=
        List.forall_mem_map.mpr hblocking
      have hbelow' : ∀ top ∈ (below.map (Token.moved move)).head?, isBlockedBy op top = false := by
        rw [List.head?_map]
        rintro _ hother
        obtain ⟨top, htop, rfl⟩ := Option.map_eq_some_iff.mp hother
        exact hbelow top htop
      rw [List.map_append, arrange_operator hkind hblocking hbelow,
        arrange_operator hmoved hblocking' hbelow', ← List.map_cons, ih, moved_append]

end Postfix

end Calculator
