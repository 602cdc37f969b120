import Calculator.Proofs.Token.Standard
import Calculator.Proofs.Token.Trimming

/-!
# Tokens without their places

Blanks separate nothing: they decide where tokens stand, but which tokens there are and how they
read depends only on the other characters. How minus signs are resolved does not depend on the
places of tokens, either.
-/

namespace Calculator

namespace Token

/-- The token as it stands nowhere in particular. -/
def unplaced (token : Token) : Token :=
  { token with position := 0 }

/-- What a token is does not depend on where it stands. -/
@[simp] theorem kind_unplaced (token : Token) : token.unplaced.kind = token.kind := rfl

/-- What holds of tokens wherever they stand is counted alike. -/
theorem countP_map_unplaced {p : Token → Bool} (hp : ∀ token, p (unplaced token) = p token)
    (tokens : List Token) : (tokens.map unplaced).countP p = tokens.countP p := by
  rw [List.countP_map]
  exact List.countP_congr fun token _ => by rw [Function.comp_apply, hp]

/-- Whether a minus sign negates does not depend on its place. -/
theorem resolveFrom_map_unplaced (options : Options) (previous : Option Kind)
    (tokens : List Token) :
    resolveFrom options previous (tokens.map unplaced) =
      (resolveFrom options previous tokens).map unplaced := by
  induction tokens generalizing previous with
  | nil => rfl
  | cons token rest ih =>
    have htoken : resolveAfter options previous token.unplaced =
        (resolveAfter options previous token).unplaced := by
      have hminus : token.unplaced.isSubtraction = token.isSubtraction := rfl
      unfold resolveAfter
      rw [hminus]
      split <;> rfl
    rw [List.map_cons, resolveFrom, resolveFrom, htoken, kind_unplaced, ih, List.map_cons]

/-- Minus signs are resolved alike at other places. -/
theorem resolve_map_unplaced (options : Options) (tokens : List Token) :
    resolve options (tokens.map unplaced) = (resolve options tokens).map unplaced :=
  resolveFrom_map_unplaced options none tokens

end Token

namespace Scanner

open Text Token

/-- The tokens of a text are those of its characters without the blanks, at other places. -/
theorem map_unplaced_tokens (s : Scanner) (position : Nat) :
    s.tokens.map unplaced = (tokens ⟨filled s.rest, position⟩).map unplaced := by
  induction s using reads_induction generalizing position with
  | blanks s hblanks =>
    rw [tokens_eq_nil hblanks, filled_eq_nil hblanks, tokens_eq_nil (List.forall_mem_nil _)]
  | reads hreads ih =>
    rw [hreads.tokens_eq]
    cases hreads with
    | @control blanks hblanks c kind hkind rest start =>
      have hc : isBlank c = false := Kind.isBlank_of_ofControl? hkind
      have hsame := Reads.control (List.forall_mem_nil _) hkind (filled rest) position
      rw [filled_append, filled_eq_nil hblanks, filled_cons hc, hsame.tokens_eq,
        List.map_cons, List.map_cons, ih]
      rfl
    | @operand blanks hblanks first run hfirst hrun rest hrest start =>
      have hinside : ∀ c ∈ first :: filled run, isControl c = false := fun c hc =>
        hrun c ((List.filter_sublist.cons_cons first).subset hc)
      have hstop : ∀ c ∈ (filled rest).head?, isControl c = true := by
        cases rest with
        | nil =>
          intro c hc
          cases hc
        | cons next later =>
          rw [filled_cons (isBlank_eq_false_of_isControl (hrest next rfl))]
          exact hrest
      have htext : (first :: filled run).filter (!isBlank ·) = filled (first :: run) := by
        rw [filled_cons hfirst]
        exact filled_eq_self (List.forall_mem_cons.mpr ⟨hfirst, fun c => isBlank_of_mem_filled⟩)
      have hsplit : filled (first :: run ++ rest) = first :: filled run ++ filled rest := by
        rw [filled_append, filled_cons hfirst]
      have hsame := Reads.operand (List.forall_mem_nil _) hfirst hinside hstop position
      rw [filled_append, filled_eq_nil hblanks, hsplit, hsame.tokens_eq, htext,
        List.map_cons, List.map_cons, ih]
      rfl

/-- Texts with the same characters but for blanks have the same tokens at other places. -/
theorem map_unplaced_tokens_congr {first second : Scanner}
    (hsame : filled first.rest = filled second.rest) :
    first.tokens.map unplaced = second.tokens.map unplaced := by
  rw [map_unplaced_tokens first 0, map_unplaced_tokens second 0, hsame]

end Scanner

end Calculator
