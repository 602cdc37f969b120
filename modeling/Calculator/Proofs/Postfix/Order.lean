import Calculator.Proofs.Postfix.Conservation
import Calculator.Proofs.Token.Located

/-!
# Order of operands

The conversion to postfix form moves operators behind their operands and invents no token. The
operands stay in the order in which they were written, also when minus signs are resolved.
-/

namespace Calculator

namespace Token

/-- Resolving a minus sign neither makes nor takes away an operand. -/
theorem filter_isOperand_resolveFrom (options : Options) (previous : Option Kind)
    (tokens : List Token) :
    (resolveFrom options previous tokens).filter isOperand = tokens.filter isOperand := by
  induction tokens generalizing previous with
  | nil => rfl
  | cons token rest ih =>
    rw [resolveFrom, List.filter_cons, List.filter_cons, ih]
    obtain ⟨kind, text, position⟩ := token
    cases kind with
    | operand | opening | closing => rfl
    | operator op =>
      simp only [resolveAfter]
      split <;> rfl

end Token

namespace Postfix

open Token

variable {strict : Bool} {pending tokens form : List Token}

/-- Every token of a postfix form was pending or is one of those that were converted. -/
theorem Arranges.mem_or_mem (harranges : Arranges strict pending tokens form) :
    ∀ token ∈ form, token ∈ pending ∨ token ∈ tokens := by
  intro token htoken
  obtain ⟨partners, -, hperm⟩ := harranges.exists_partners
  exact (List.mem_append.mp (hperm.subset (List.mem_append_left _ htoken))).imp_right
    List.mem_of_mem_filter

/-- The operands of a postfix form are those that were converted, in their order. -/
theorem Arranges.filter_isOperand (harranges : Arranges strict pending tokens form)
    (hpending : ∀ top ∈ pending, top.isOperand = false) :
    form.filter isOperand = tokens.filter isOperand := by
  induction harranges with
  | done => simpa using filter_append_of_forall hpending []
  | @operand pending rest form token hkind hrest ih =>
    rw [List.filter_cons, List.filter_cons, ih hpending]
  | @opening pending rest form token hkind hrest ih =>
    have htoken : token.isOperand = false := by simp [isOperand, hkind]
    rw [List.filter_cons_of_neg (by simp [htoken])]
    exact ih (List.forall_mem_cons.mpr ⟨htoken, hpending⟩)
  | @closing group below rest form token partner hkind hgroup hpartner hrest ih =>
    obtain ⟨hinside, -, hbelow⟩ := List.forall_mem_append.mp hpending |>.imp_right
      List.forall_mem_cons.mp
    rw [filter_append_of_forall hinside, List.filter_cons_of_neg (by simp [isOperand, hkind])]
    exact ih hbelow
  | @stray pending rest form token hkind hstrict hnone hrest ih =>
    rw [filter_append_of_forall hpending, List.filter_cons_of_neg (by simp [isOperand, hkind])]
    exact ih nofun
  | @operator blocking below rest form token op hkind hblocking hbelow hrest ih =>
    obtain ⟨hreleased, hlater⟩ := List.forall_mem_append.mp hpending
    have htoken : token.isOperand = false := by simp [isOperand, hkind]
    rw [filter_append_of_forall hreleased, List.filter_cons_of_neg (by simp [htoken])]
    exact ih (List.forall_mem_cons.mpr ⟨htoken, hlater⟩)

/-- An operand of an expression that is written before an operand of the postfix form stands before
it in the postfix form, too. -/
theorem mem_of_position_lt {options : Options} {expression : String} {before after : List Token}
    {token other : Token}
    (harranges : Arranges strict [] (resolve options (Expression.tokens options expression))
      (before ++ token :: after))
    (htoken : token.isOperand = true) (hother : other.isOperand = true)
    (hmem : other ∈ Expression.tokens options expression)
    (hlt : other.position < token.position) : other ∈ before := by
  have hoperands : (Expression.tokens options expression).filter isOperand =
      before.filter isOperand ++ token :: after.filter isOperand := by
    rw [← filter_isOperand_resolveFrom options none, ← List.filter_cons_of_pos htoken,
      ← List.filter_append]
    exact (harranges.filter_isOperand nofun).symm
  have hordered : ((Expression.tokens options expression).filter isOperand).Pairwise
      (·.position < ·.position) := (Scanner.pairwise_position _).sublist List.filter_sublist
  rw [hoperands] at hordered
  have hplace := List.mem_filter.mpr ⟨hmem, hother⟩
  rw [hoperands] at hplace
  rcases List.mem_append.mp hplace with hbefore | hlater
  · exact List.mem_of_mem_filter hbefore
  · rcases List.mem_cons.mp hlater with rfl | hafter
    · omega
    · have hbehind := (List.pairwise_cons.mp (List.pairwise_append.mp hordered).2.1).1 other hafter
      omega

end Postfix

end Calculator
