import Calculator.Proofs.Grammar.Infix
import Calculator.Token.Negation

/-!
# Minus signs of infix expressions

Resolving minus signs turns exactly those into negation that stand in front of their operand in
the grammar. The only trouble is a subtraction behind a closing parenthesis, which resolves to a
negation unless the options say otherwise.
-/

namespace Calculator

namespace Infix

variable {chained : Bool} {rank : Rank}

/-- The kind of the last token of an expression: an operand or a closing parenthesis. -/
def lastKind : {rank : Rank} → Infix chained rank → Token.Kind
  | _, operand _ _ => .operand
  | _, group _ _ _ => .closing
  | _, lift _ body => body.lastKind
  | _, power _ _ exponent => exponent.lastKind
  | _, negation _ body => body.lastKind
  | _, binary _ _ _ _ _ right => right.lastKind

/-- Whether a subtraction stands directly behind a closing parenthesis. -/
def subtractsBehindGroup : {rank : Rank} → Infix chained rank → Bool
  | _, operand _ _ => false
  | _, group _ body _ => body.subtractsBehindGroup
  | _, lift _ body => body.subtractsBehindGroup
  | _, power base _ exponent => base.subtractsBehindGroup || exponent.subtractsBehindGroup
  | _, negation _ body => body.subtractsBehindGroup
  | _, binary _ left operation _ _ right =>
    left.subtractsBehindGroup || right.subtractsBehindGroup ||
      (operation == .subtract && left.lastKind == .closing)

/-- An expression ends in an operand or in a closing parenthesis. -/
theorem lastKind_eq (e : Infix chained rank) :
    e.lastKind = .operand ∨ e.lastKind = .closing := by
  induction e with
  | operand => exact .inl rfl
  | group => exact .inr rfl
  | lift htight body ih => exact ih
  | power base gap exponent ihbase ihexponent => exact ihexponent
  | negation gap body ih => exact ih
  | binary htight left operation hrank gap right ihleft ihright => exact ihright

end Infix

namespace Token

/-- A binary operator behind its left operand stays as it is, unless it is a subtraction behind a
closing parenthesis and the options make that a negation. -/
theorem resolveAfter_operation {options : Options} {previous : Kind} (operation : BinaryOperation)
    (position : Nat)
    (hprevious : previous = .operand ∨ previous = .closing ∧
      (options.subtractAfterClosing = true ∨ operation ≠ .subtract)) :
    resolveAfter options (some previous) (operation.token position) =
      operation.token position := by
  rcases hprevious with rfl | ⟨rfl, hoptions | hoperation⟩
  · simp [resolveAfter, negatesAfter]
  · simp [resolveAfter, negatesAfter, hoptions]
  · cases operation <;> first | rfl | exact absurd rfl hoperation

/-- A minus sign without a left operand becomes negation. -/
theorem resolveAfter_minus {options : Options} {previous : Option Kind} (position : Nat)
    (hprevious : negatesAfter options previous = true) :
    resolveAfter options previous (Token.minus BinaryOperation.subtract.operator position) =
      Token.minus Operator.negation position := by
  rw [resolveAfter, hprevious]
  rfl

end Token

namespace Infix

variable {chained : Bool} {rank : Rank} {options : Options}

/-- Resolving the tokens of an expression gives its minus signs the meaning that the grammar gives
them, and goes on behind its last token. -/
theorem resolveFrom_tokens (e : Infix chained rank)
    (hminus : options.subtractAfterClosing = true ∨ e.subtractsBehindGroup = false)
    {previous : Option Token.Kind} (hprevious : Token.negatesAfter options previous = true)
    (rest : List Token) (start : Nat) :
    Token.resolveFrom options previous
        (e.tokens BinaryOperation.subtract.operator start ++ rest) =
      e.tokens Operator.negation start ++ Token.resolveFrom options (some e.lastKind) rest := by
  induction e generalizing previous rest start with
  | operand word gap => rfl
  | group gap body after ih =>
    simp only [tokens, List.cons_append, List.append_assoc, List.nil_append]
    rw [Token.resolveFrom]
    simp only [Token.resolveAfter, Token.isSubtraction, Bool.false_and, Bool.false_eq_true,
      if_false]
    rw [ih hminus rfl]
    rfl
  | lift htight body ih => exact ih hminus hprevious rest start
  | power base gap exponent ihbase ihexponent =>
    simp only [subtractsBehindGroup, Bool.or_eq_false_iff] at hminus
    have hbase := hminus.imp_right And.left
    have hexponent := hminus.imp_right And.right
    have hcaret : Token.resolveAfter options (some base.lastKind)
        (BinaryOperation.power.token (start + base.width)) =
          BinaryOperation.power.token (start + base.width) :=
      Token.resolveAfter_operation .power _
        (base.lastKind_eq.imp_right fun hlast => ⟨hlast, .inr (by decide)⟩)
    simp only [tokens, List.append_assoc, List.cons_append]
    rw [ihbase hbase hprevious, Token.resolveFrom, hcaret]
    simp only [BinaryOperation.token]
    rw [ihexponent hexponent rfl]
    rfl
  | negation gap body ih =>
    simp only [tokens, List.cons_append]
    rw [Token.resolveFrom, Token.resolveAfter_minus start hprevious]
    simp only [Token.minus]
    rw [ih hminus rfl]
    rfl
  | binary htight left operation hrank gap right ihleft ihright =>
    simp only [subtractsBehindGroup, Bool.or_eq_false_iff] at hminus
    have hleft := hminus.imp_right fun h => h.1.1
    have hright := hminus.imp_right fun h => h.1.2
    have hoperation : left.lastKind = .operand ∨ left.lastKind = .closing ∧
        (options.subtractAfterClosing = true ∨ operation ≠ .subtract) := by
      refine left.lastKind_eq.imp_right fun hlast => ⟨hlast, hminus.imp_right fun h => ?_⟩
      simpa [hlast] using h.2
    simp only [tokens, List.append_assoc, List.cons_append]
    rw [ihleft hleft hprevious, Token.resolveFrom,
      Token.resolveAfter_operation operation _ hoperation]
    simp only [BinaryOperation.token]
    rw [ihright hright rfl]
    rfl

/-- Resolving all minus signs of an expression. -/
theorem resolve_tokens (e : Infix chained rank)
    (hminus : options.subtractAfterClosing = true ∨ e.subtractsBehindGroup = false)
    (start : Nat) :
    Token.resolve options (e.tokens BinaryOperation.subtract.operator start) =
      e.tokens Operator.negation start := by
  have hprevious : Token.negatesAfter options none = true := rfl
  have hresolve := e.resolveFrom_tokens hminus hprevious [] start
  simpa [Token.resolve, Token.resolveFrom] using hresolve

end Infix

end Calculator
