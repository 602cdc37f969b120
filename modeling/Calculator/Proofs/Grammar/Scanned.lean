import Calculator.Proofs.Grammar.Infix
import Calculator.Proofs.Token.Trimming

/-!
# Scanning infix expressions

The tokens that are scanned from the text of an expression are the tokens of the expression, with
every minus sign still a subtraction. Positions count from the first token, however many blanks
stand before it, and no option of an evaluation changes the tokens, because no expression ends in
an operator.
-/

namespace Calculator

namespace Scanner

/-- A control character is scanned with the blanks behind it. -/
theorem tokens_control {c : Char} {kind : Token.Kind}
    (hkind : Token.Kind.ofControl? c = some kind) (gap : Blanks) (rest : List Char)
    (position : Nat) :
    tokens ⟨c :: (gap.chars ++ rest), position⟩ =
      ⟨kind, String.singleton c, position⟩ :: tokens ⟨rest, Infix.behind position gap⟩ := by
  have hreads := Reads.control (List.forall_mem_nil _) hkind (gap.chars ++ rest) position
  rw [← List.nil_append (c :: _), hreads.tokens_eq, List.length_nil, Nat.add_zero,
    tokens_blanks_append gap.isBlank, Infix.behind]

/-- The symbol of a binary operation is scanned as its token. -/
theorem tokens_operation (operation : BinaryOperation) (gap : Blanks) (rest : List Char)
    (position : Nat) :
    tokens ⟨operation.operator.symbol :: (gap.chars ++ rest), position⟩ =
      operation.token position :: tokens ⟨rest, Infix.behind position gap⟩ :=
  tokens_control (Token.Kind.ofControl?_operator operation) gap rest position

/-- A word is scanned with the blanks behind it, up to a control character or the end. -/
theorem tokens_word (word : Word) (gap : Blanks) {rest : List Char}
    (hrest : ∀ c ∈ rest.head?, isControl c = true) (position : Nat) :
    tokens ⟨word.chars ++ (gap.chars ++ rest), position⟩ =
      ⟨.operand, word.text, position⟩ ::
        tokens ⟨rest, position + (word.chars ++ gap.chars).length⟩ := by
  have hrun : ∀ c ∈ word.first :: (word.rest ++ gap.chars), isControl c = false := by
    intro c hc
    rw [← List.cons_append, List.mem_append] at hc
    exact hc.elim (fun hmem => (word.plain c hmem).2) fun hmem =>
      isControl_eq_false_of_isBlank (gap.isBlank c hmem)
  have hfirst := (word.plain word.first List.mem_cons_self).1
  have htext : (word.first :: (word.rest ++ gap.chars)).filter (!Text.isBlank ·) =
      word.chars := by
    have hword : word.chars.filter (!Text.isBlank ·) = word.chars :=
      List.filter_eq_self.mpr fun c hc => by simp [(word.plain c hc).1]
    have hgap : gap.chars.filter (!Text.isBlank ·) = [] := by
      simpa [List.filter_eq_nil_iff] using gap.isBlank
    rw [← List.cons_append, List.filter_append, hgap, List.append_nil]
    exact hword
  have hreads := Reads.operand (List.forall_mem_nil _) hfirst hrun hrest position
  rw [htext] at hreads
  simpa [Word.chars, Word.text] using hreads.tokens_eq

end Scanner

namespace Infix

variable {chained : Bool} {rank : Rank}

/-- The symbol of a binary operation ends a word. -/
theorem head_operation (operation : BinaryOperation) (rest : List Char) :
    ∀ c ∈ (operation.operator.symbol :: rest).head?, isControl c = true := by
  simp only [List.head?_cons, Option.mem_def, Option.some.injEq, forall_eq']
  exact isControl_eq_true_iff.mpr (.inr (.inr ⟨_, operation.written?_operator⟩))

/-- Scanning the text of an expression gives its tokens and goes on behind it. -/
theorem tokens_scan (e : Infix chained rank) {rest : List Char}
    (hrest : ∀ c ∈ rest.head?, isControl c = true) (start : Nat) :
    Scanner.tokens ⟨e.render ++ rest, start⟩ =
      e.tokens BinaryOperation.subtract.operator start ++
        Scanner.tokens ⟨rest, start + e.width⟩ := by
  induction e generalizing rest start with
  | operand word gap =>
    simp only [render, tokens, width, List.append_assoc, List.singleton_append,
      Scanner.tokens_word word gap hrest]
  | group gap body after ih =>
    have hclosing : ∀ c ∈ (')' :: (after.chars ++ rest)).head?, isControl c = true := by
      simp [isControl_eq_true_iff]
    have hopen : Token.Kind.ofControl? '(' = some .opening := rfl
    have hclose : Token.Kind.ofControl? ')' = some .closing := rfl
    simp only [render, tokens, List.append_assoc, List.cons_append, List.nil_append]
    rw [Scanner.tokens_control hopen, ih hclosing, Scanner.tokens_control hclose]
    have hwidth : behind (behind start gap + body.width) after =
        start + (group gap body after).width := by
      simp only [behind, width_group]
      omega
    rw [hwidth]
  | lift htight body ih => exact ih hrest start
  | power base gap exponent ihbase ihexponent =>
    have hcaret : ∀ c ∈ ('^' :: (gap.chars ++ (exponent.render ++ rest))).head?,
        isControl c = true := head_operation .power _
    have hscan : Scanner.tokens ⟨'^' :: (gap.chars ++ (exponent.render ++ rest)),
        start + base.width⟩ = BinaryOperation.power.token (start + base.width) :: _ :=
      Scanner.tokens_operation .power gap _ _
    simp only [render, tokens, List.append_assoc, List.cons_append]
    rw [ihbase hcaret, hscan, ihexponent hrest]
    have hwidth : behind (start + base.width) gap + exponent.width =
        start + (power base gap exponent).width := by
      simp only [behind, width_power]
      omega
    rw [hwidth]
  | negation gap body ih =>
    have hscan : Scanner.tokens ⟨'-' :: (gap.chars ++ (body.render ++ rest)), start⟩ =
        Token.minus BinaryOperation.subtract.operator start :: _ :=
      Scanner.tokens_operation .subtract gap _ _
    simp only [render, tokens, List.append_assoc, List.cons_append]
    rw [hscan, ih hrest]
    have hwidth : behind start gap + body.width = start + (negation gap body).width := by
      simp only [behind, width_negation]
      omega
    rw [hwidth]
  | binary htight left operation hrank gap right ihleft ihright =>
    have hsymbol : ∀ c ∈ (operation.operator.symbol ::
        (gap.chars ++ (right.render ++ rest))).head?, isControl c = true :=
      head_operation operation _
    simp only [render, tokens, List.append_assoc, List.cons_append]
    rw [ihleft hsymbol, Scanner.tokens_operation, ihright hrest]
    have hwidth : behind (start + left.width) gap + right.width =
        start + (binary htight left operation hrank gap right).width := by
      simp only [behind, width_binary]
      omega
    rw [hwidth]

/-- The text of an expression ends in a character that is neither a blank nor an operator, and
blanks behind it. -/
theorem exists_render_eq (e : Infix chained rank) :
    ∃ text c trailing, e.render = text ++ c :: trailing ∧
      (∀ d ∈ trailing, Text.isBlank d = true) ∧ Text.isBlank c = false ∧
      (CharRoles.ofChar c).binary = false := by
  induction e with
  | operand word gap =>
    have hne : word.chars ≠ [] := List.cons_ne_nil _ _
    obtain ⟨hblank, hcontrol⟩ := word.plain _ (List.getLast_mem hne)
    refine ⟨word.chars.dropLast, word.chars.getLast hne, gap.chars, ?_, gap.isBlank, hblank,
      binary_eq_false_of_isControl hcontrol⟩
    rw [render, ← List.singleton_append, ← List.append_assoc, List.dropLast_concat_getLast]
  | group gap body after ih =>
    refine ⟨'(' :: gap.chars ++ body.render, ')', after.chars, ?_, after.isBlank, rfl, rfl⟩
    simp [render]
  | lift htight body ih => exact ih
  | power base gap exponent ihbase ihexponent =>
    obtain ⟨text, c, trailing, hrender, hends⟩ := ihexponent
    exact ⟨base.render ++ '^' :: gap.chars ++ text, c, trailing, by simp [render, hrender], hends⟩
  | negation gap body ih =>
    obtain ⟨text, c, trailing, hrender, hends⟩ := ih
    exact ⟨'-' :: gap.chars ++ text, c, trailing, by simp [render, hrender], hends⟩
  | binary htight left operation hrank gap right ihleft ihright =>
    obtain ⟨text, c, trailing, hrender, hends⟩ := ihright
    exact ⟨left.render ++ operation.operator.symbol :: gap.chars ++ text, c, trailing,
      by simp [render, hrender], hends⟩

/-- The text of an expression begins with a character that is no blank. -/
theorem exists_render_eq_cons (e : Infix chained rank) :
    ∃ c rest, e.render = c :: rest ∧ Text.isBlank c = false := by
  induction e with
  | operand word gap =>
    exact ⟨word.first, word.rest ++ gap.chars, rfl, (word.plain _ List.mem_cons_self).1⟩
  | group gap body after ih => exact ⟨'(', _, rfl, rfl⟩
  | lift htight body ih => exact ih
  | power base gap exponent ihbase ihexponent =>
    obtain ⟨c, rest, hrender, hc⟩ := ihbase
    exact ⟨c, _, by rw [render, hrender]; rfl, hc⟩
  | negation gap body ih => exact ⟨'-', _, rfl, rfl⟩
  | binary htight left operation hrank gap right ihleft ihright =>
    obtain ⟨c, rest, hrender, hc⟩ := ihleft
    exact ⟨c, _, by rw [render, hrender]; rfl, hc⟩

/-- The tokens of an expression behind leading blanks are its tokens at the start, whatever the
options. -/
theorem tokens_text (options : Options) (leading : Blanks) (e : Infix chained rank) :
    Expression.tokens options (e.text leading) =
      e.tokens BinaryOperation.subtract.operator 0 := by
  obtain ⟨text, c, trailing, hrender, htrailing, hc, hbinary⟩ := e.exists_render_eq
  have hexpression : (e.text leading).toList = leading.chars ++ (text ++ c :: trailing) := by
    rw [Infix.text, String.toList_ofList, hrender]
  have hhead : ∀ d ∈ (text ++ [c]).head?, Text.isBlank d = false := by
    obtain ⟨first, rest, hcons, hfirst⟩ := e.exists_render_eq_cons
    rw [hrender] at hcons
    cases text <;> simp_all
  have hscan := e.tokens_scan (by simp : ∀ d ∈ ([] : List Char).head?, isControl d = true) 0
  have hend : Scanner.tokens ⟨[], 0 + e.width⟩ = [] := Scanner.tokens_eq_nil (by simp)
  rw [hend, List.append_nil, List.append_nil] at hscan
  rw [Expression.tokens_eq_of_ends hexpression leading.isBlank htrailing hhead hc hbinary,
    ← hrender, Scanner.ofList, hscan]

end Infix

end Calculator
