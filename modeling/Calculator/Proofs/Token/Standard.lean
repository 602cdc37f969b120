import Calculator.Expression
import Calculator.Proofs.Token.Scanning
import Calculator.Token.Negation

/-!
# Standard tokens

The operators of an expression are those of the table: the scanner reads the binary ones, and
resolving minus signs adds nothing but negation.
-/

namespace Calculator

namespace Token

/-- Whether the operator of a token, if it has one, is in the table. -/
def IsStandard (token : Token) : Prop :=
  ∀ op, token.kind = .operator op → op ∈ Operator.table

/-- The scanner reads standard tokens. -/
theorem isStandard_of_reads {s after : Scanner} {token : Token}
    (hreads : Scanner.Reads s token after) : token.IsStandard := by
  cases hreads with
  | @control blanks hblanks c kind hkind rest position =>
    rintro op rfl
    rcases Kind.ofControl?_cases hkind with ⟨-, hparen⟩ | ⟨-, hparen⟩ | ⟨written, hop, -, hwritten⟩
    · cases hparen
    · cases hparen
    · cases hop
      exact (Operator.written?_eq_some_iff.mp hwritten).1
  | operand => exact nofun

/-- All tokens of a text are standard. -/
theorem isStandard_of_mem_tokens (s : Scanner) : ∀ token ∈ s.tokens, token.IsStandard :=
  Scanner.forall_mem_tokens isStandard_of_reads s

/-- Resolving a minus sign leaves a standard token. -/
theorem IsStandard.resolveAfter {options : Options} {previous : Option Kind} {token : Token}
    (hstandard : token.IsStandard) : (Token.resolveAfter options previous token).IsStandard := by
  unfold Token.resolveAfter
  split
  · rintro op hop
    cases hop
    decide
  · exact hstandard

/-- What resolving a minus sign leaves true of every token holds of all resolved tokens. -/
theorem forall_mem_resolveFrom {P : Token → Prop} {options : Options} {tokens : List Token}
    (hresolve : ∀ token ∈ tokens, ∀ previous, P (resolveAfter options previous token))
    {previous : Option Kind} : ∀ token ∈ resolveFrom options previous tokens, P token := by
  induction tokens generalizing previous with
  | nil => exact nofun
  | cons token rest ih =>
    obtain ⟨htoken, hrest⟩ := List.forall_mem_cons.mp hresolve
    exact List.forall_mem_cons.mpr ⟨htoken previous, ih hrest⟩

/-- All tokens of an expression are standard. -/
theorem isStandard_resolve (options : Options) (expression : String) :
    ∀ token ∈ resolve options (Expression.tokens options expression), token.IsStandard :=
  forall_mem_resolveFrom fun token htoken _ =>
    (isStandard_of_mem_tokens _ token htoken).resolveAfter

end Token

end Calculator
