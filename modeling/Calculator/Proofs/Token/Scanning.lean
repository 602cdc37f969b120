import Calculator.Proofs.OperatorTable
import Calculator.Proofs.Spans
import Calculator.Token.Scanner

/-!
# What the scanner reads

A scanner skips blanks and then reads a control character or the longest run without one. This
file states both as a relation, proves that the scanner reads exactly by it, and derives that
blanks before a token and behind the last one change no token.
-/

namespace Calculator

/-- No symbol of an operator is a blank. -/
theorem Operator.isBlank_symbol {op : Operator} (hop : op ∈ table) :
    Text.isBlank op.symbol = false := by
  have hblank : ∀ op ∈ table, Text.isBlank op.symbol = false := by decide
  exact hblank op hop

/-- A control character is a parenthesis or the symbol of an operator that can be written. -/
theorem isControl_eq_true_iff {c : Char} :
    isControl c = true ↔ c = '(' ∨ c = ')' ∨ ∃ op, Operator.written? c = some op := by
  simp [isControl, CharRoles.isControl, CharRoles.ofChar, Option.isSome_iff_exists, or_assoc]

/-- The characters of operands are those that are no control characters. -/
theorem isControl_eq_false_iff {c : Char} :
    isControl c = false ↔ c ≠ '(' ∧ c ≠ ')' ∧ Operator.written? c = none := by
  rw [← Bool.not_eq_true, isControl_eq_true_iff, ← Option.isSome_iff_exists, not_or, not_or,
    Option.not_isSome_iff_eq_none]

/-- No control character is a blank. -/
theorem isBlank_eq_false_of_isControl {c : Char} (hcontrol : isControl c = true) :
    Text.isBlank c = false := by
  rcases isControl_eq_true_iff.mp hcontrol with rfl | rfl | ⟨op, hop⟩
  · decide
  · decide
  · obtain ⟨hmem, -, rfl⟩ := Operator.written?_eq_some_iff.mp hop
    exact Operator.isBlank_symbol hmem

/-- No blank is a control character. -/
theorem isControl_eq_false_of_isBlank {c : Char} (hblank : Text.isBlank c = true) :
    isControl c = false := by
  by_contra hcontrol
  simp [isBlank_eq_false_of_isControl (by simpa using hcontrol)] at hblank

/-- The symbol of a binary operator is a control character. -/
theorem isControl_of_binary {c : Char} (hbinary : (CharRoles.ofChar c).binary = true) :
    isControl c = true := by
  rw [isControl, CharRoles.isControl, hbinary, Bool.or_true]

/-- The symbol of a binary operator is no blank. -/
theorem isBlank_eq_false_of_binary {c : Char} (hbinary : (CharRoles.ofChar c).binary = true) :
    Text.isBlank c = false :=
  isBlank_eq_false_of_isControl (isControl_of_binary hbinary)

/-- What is no control character is not the symbol of a binary operator. -/
theorem binary_eq_false_of_isControl {c : Char} (hcontrol : isControl c = false) :
    (CharRoles.ofChar c).binary = false := by
  rw [isControl, CharRoles.isControl, Bool.or_eq_false_iff] at hcontrol
  exact hcontrol.2

/-- A character that is a token by itself is a control character. -/
theorem Token.Kind.isControl_of_ofControl? {c : Char} {kind : Kind}
    (hkind : Kind.ofControl? c = some kind) : isControl c = true := by
  rw [← Kind.isSome_ofControl?, hkind]
  rfl

/-- A character that is a token by itself is no blank. -/
theorem Token.Kind.isBlank_of_ofControl? {c : Char} {kind : Kind}
    (hkind : Kind.ofControl? c = some kind) : Text.isBlank c = false :=
  isBlank_eq_false_of_isControl (isControl_of_ofControl? hkind)

/-- A character that is a token by itself is a parenthesis or stands for an operator. -/
theorem Token.Kind.ofControl?_cases {c : Char} {kind : Kind}
    (hkind : Kind.ofControl? c = some kind) :
    c = '(' ∧ kind = .opening ∨ c = ')' ∧ kind = .closing ∨
      ∃ op, kind = .operator op ∧ c = op.symbol ∧ Operator.written? op.symbol = some op := by
  unfold Kind.ofControl? at hkind
  split at hkind
  · exact .inl ⟨‹_›, (Option.some.inj hkind).symm⟩
  · split at hkind
    · exact .inr (.inl ⟨‹_›, (Option.some.inj hkind).symm⟩)
    · obtain ⟨op, hop, rfl⟩ := Option.map_eq_some_iff.mp hkind
      obtain ⟨-, -, rfl⟩ := Operator.written?_eq_some_iff.mp hop
      exact .inr (.inr ⟨op, rfl, rfl, hop⟩)

/-- The symbol of an operator that can be written is a token of this operator. -/
theorem Token.Kind.ofControl?_of_written? {c : Char} {op : Operator}
    (hop : Operator.written? c = some op) : Kind.ofControl? c = some (.operator op) := by
  unfold Kind.ofControl?
  split
  · rename_i hopen
    subst hopen
    cases hop
  · split
    · rename_i hclose
      subst hclose
      cases hop
    · rw [hop]
      rfl

/-- The symbol of a binary operation is a token by itself. -/
@[simp] theorem Token.Kind.ofControl?_operator (operation : BinaryOperation) :
    Kind.ofControl? operation.operator.symbol = some (.operator operation.operator) := by
  cases operation <;> rfl

namespace Scanner

/-- What it means to read a token: blanks are skipped, and then stands a control character, or
the longest run without one, whose first character is no blank. -/
inductive Reads : Scanner → Token → Scanner → Prop
  | control {blanks : List Char} (hblanks : ∀ c ∈ blanks, Text.isBlank c = true) {c : Char}
      {kind : Token.Kind} (hkind : Token.Kind.ofControl? c = some kind) (rest : List Char)
      (position : Nat) :
      Reads ⟨blanks ++ c :: rest, position⟩
        ⟨kind, String.singleton c, position + blanks.length⟩
        ⟨rest, position + blanks.length + 1⟩
  | operand {blanks : List Char} (hblanks : ∀ c ∈ blanks, Text.isBlank c = true)
      {first : Char} {run : List Char} (hfirst : Text.isBlank first = false)
      (hrun : ∀ c ∈ first :: run, isControl c = false) {rest : List Char}
      (hrest : ∀ c ∈ rest.head?, isControl c = true) (position : Nat) :
      Reads ⟨blanks ++ (first :: run ++ rest), position⟩
        ⟨.operand, String.ofList ((first :: run).filter (!Text.isBlank ·)),
          position + blanks.length⟩
        ⟨rest, position + blanks.length + (first :: run).length⟩

/-- Blanks are skipped up to the first other character. -/
theorem skipBlanks_append {blanks rest : List Char} (position : Nat)
    (hblanks : ∀ c ∈ blanks, Text.isBlank c = true)
    (hrest : ∀ c ∈ rest.head?, Text.isBlank c = false) :
    skipBlanks ⟨blanks ++ rest, position⟩ = ⟨rest, position + blanks.length⟩ := by
  rw [skipBlanks, takeWhile_span hblanks hrest, dropWhile_span hblanks hrest]

/-- The scanner reads what can be read. -/
theorem Reads.next?_eq {s after : Scanner} {token : Token} (hreads : Reads s token after) :
    s.next? = some (token, after) := by
  cases hreads with
  | @control blanks hblanks c kind hkind rest position =>
    have hhead : ∀ d ∈ (c :: rest).head?, Text.isBlank d = false := by
      simpa using Token.Kind.isBlank_of_ofControl? hkind
    simp only [next?, skipBlanks_append position hblanks hhead, hkind]
  | @operand blanks hblanks first run hfirst hrun rest hrest position =>
    have hnone : Token.Kind.ofControl? first = none := by
      rw [← Option.not_isSome_iff_eq_none, Token.Kind.isSome_ofControl?, hrun first (by simp)]
      simp
    have hhead : ∀ d ∈ (first :: run ++ rest).head?, Text.isBlank d = false := by
      simpa using hfirst
    have hword : ∀ c ∈ first :: run, (!isControl c) = true := by simpa using hrun
    have hstop : ∀ c ∈ rest.head?, (!isControl c) = false := by simpa using hrest
    simp only [next?, skipBlanks_append position hblanks hhead]
    simp only [List.cons_append, hnone, Scanner.operand]
    rw [← List.cons_append, takeWhile_span hword hstop, dropWhile_span hword hstop]

/-- The scanner reads only what can be read. -/
theorem reads_of_next? {s after : Scanner} {token : Token}
    (hnext : s.next? = some (token, after)) : Reads s token after := by
  obtain ⟨text, position⟩ := s
  obtain ⟨blanks, rest, rfl, hblanks, hhead⟩ := exists_span Text.isBlank text
  simp only [next?, skipBlanks_append position hblanks hhead] at hnext
  cases rest with
  | nil => cases hnext
  | cons c rest =>
    cases hkind : Token.Kind.ofControl? c with
    | some kind =>
      simp only [hkind, Option.some.injEq, Prod.mk.injEq] at hnext
      obtain ⟨rfl, rfl⟩ := hnext
      exact .control hblanks hkind rest position
    | none =>
      simp only [hkind, Option.some.injEq, operand, Prod.mk.injEq] at hnext
      have hc : isControl c = false := by
        rw [← Token.Kind.isSome_ofControl?, hkind]
        rfl
      obtain ⟨run, later, hsplit, hrun, hlater⟩ := exists_span (!isControl ·) (c :: rest)
      rw [hsplit, takeWhile_span hrun hlater, dropWhile_span hrun hlater] at hnext
      obtain ⟨rfl, rfl⟩ := hnext
      cases run with
      | nil =>
        have hfirst := hlater c (by rw [← List.nil_append later, ← hsplit]; rfl)
        simp [hc] at hfirst
      | cons first run =>
        obtain ⟨rfl, rfl⟩ := List.cons_eq_cons.mp hsplit
        change Reads ⟨blanks ++ (c :: run ++ later), position⟩ _ _
        exact .operand hblanks (hhead c rfl) (by simpa using hrun) (by simpa using hlater) position

/-- Only blanks are left if there is no token. -/
theorem next?_eq_none_iff {s : Scanner} :
    s.next? = none ↔ ∀ c ∈ s.rest, Text.isBlank c = true := by
  obtain ⟨text, position⟩ := s
  obtain ⟨blanks, rest, rfl, hblanks, hhead⟩ := exists_span Text.isBlank text
  simp only [next?, skipBlanks_append position hblanks hhead]
  cases rest with
  | nil => simpa using hblanks
  | cons c rest =>
    have hc : Text.isBlank c = false := hhead c rfl
    have hnot : ¬ ∀ d ∈ blanks ++ c :: rest, Text.isBlank d = true := fun hall => by
      simp [hall c (by simp)] at hc
    simp only [hnot, iff_false]
    cases Token.Kind.ofControl? c <;> simp

/-- The tokens from a place on begin with the token that is read there. -/
theorem Reads.tokens_eq {s after : Scanner} {token : Token} (hreads : Reads s token after) :
    s.tokens = token :: after.tokens := by
  rw [tokens]
  split
  · simp_all [hreads.next?_eq]
  · simp_all [hreads.next?_eq]

/-- There are no tokens among blanks. -/
theorem tokens_eq_nil {s : Scanner} (hblanks : ∀ c ∈ s.rest, Text.isBlank c = true) :
    s.tokens = [] := by
  have hnone := next?_eq_none_iff.mpr hblanks
  rw [tokens]
  split <;> simp_all

/-- What holds of a scanner among blanks, and before a token if it holds behind it, holds of every
scanner. -/
@[elab_as_elim]
theorem reads_induction {P : Scanner → Prop}
    (blanks : ∀ s, (∀ c ∈ s.rest, Text.isBlank c = true) → P s)
    (reads : ∀ {s token after}, Reads s token after → P after → P s) (s : Scanner) : P s := by
  induction s using tokens.induct with
  | case1 s hnone => exact blanks s (next?_eq_none_iff.mp hnone)
  | case2 s token after hnext ih => exact reads (reads_of_next? hnext) ih

/-- What holds of every token that is read holds of all tokens of a text. -/
theorem forall_mem_tokens {P : Token → Prop}
    (hread : ∀ {s token after}, Reads s token after → P token) (s : Scanner) :
    ∀ token ∈ s.tokens, P token := by
  induction s using reads_induction with
  | blanks s hblanks =>
    rw [tokens_eq_nil hblanks]
    exact List.forall_mem_nil _
  | reads hreads ih =>
    rw [hreads.tokens_eq]
    exact List.forall_mem_cons.mpr ⟨hread hreads, ih⟩

/-- Only among blanks there are no tokens. -/
theorem tokens_eq_nil_iff {s : Scanner} :
    s.tokens = [] ↔ ∀ c ∈ s.rest, Text.isBlank c = true := by
  refine ⟨fun htokens => ?_, tokens_eq_nil⟩
  cases hnext : s.next? with
  | none => exact next?_eq_none_iff.mp hnext
  | some read =>
    rw [(reads_of_next? hnext).tokens_eq] at htokens
    cases htokens

/-- Blanks in front of a text only move its tokens. -/
theorem tokens_blanks_append {blanks : List Char} (hblanks : ∀ c ∈ blanks, Text.isBlank c = true)
    (rest : List Char) (position : Nat) :
    tokens ⟨blanks ++ rest, position⟩ = tokens ⟨rest, position + blanks.length⟩ := by
  obtain ⟨more, later, rfl, hmore, hlater⟩ := exists_span Text.isBlank rest
  have hall : ∀ c ∈ blanks ++ more, Text.isBlank c = true := fun c hc =>
    (List.mem_append.mp hc).elim (hblanks c) (hmore c)
  have hskip : skipBlanks ⟨blanks ++ (more ++ later), position⟩ =
      skipBlanks ⟨more ++ later, position + blanks.length⟩ := by
    rw [← List.append_assoc, skipBlanks_append position hall hlater,
      skipBlanks_append _ hmore hlater, List.length_append, Nat.add_assoc]
  have hnext : next? ⟨blanks ++ (more ++ later), position⟩ =
      next? ⟨more ++ later, position + blanks.length⟩ := by
    rw [next?, next?, hskip]
  rw [tokens, tokens]
  split <;> split <;> simp_all

/-- Blanks behind the last token change no token. -/
theorem tokens_append_blanks (s : Scanner) {blanks : List Char}
    (hblanks : ∀ c ∈ blanks, Text.isBlank c = true) :
    tokens ⟨s.rest ++ blanks, s.position⟩ = s.tokens := by
  induction s using reads_induction with
  | blanks s hrest =>
    have hall : ∀ c ∈ s.rest ++ blanks, Text.isBlank c = true := fun c hc =>
      (List.mem_append.mp hc).elim (hrest c) (hblanks c)
    rw [tokens_eq_nil hall, tokens_eq_nil hrest]
  | reads hreads ih =>
    rw [hreads.tokens_eq]
    cases hreads with
    | control hskip hkind rest position =>
      have hlonger := Reads.control hskip hkind (rest ++ blanks) position
      simp only [List.append_assoc, List.cons_append]
      rw [hlonger.tokens_eq, ih]
    | @operand skip hskip first run hfirst hrun rest hrest position =>
      cases rest with
      | nil =>
        -- The blanks lengthen the run, but not the text of the operand.
        have hword : ∀ c ∈ first :: (run ++ blanks), isControl c = false := by
          intro c hc
          rw [← List.cons_append, List.mem_append] at hc
          exact hc.elim (hrun c) fun hmem => isControl_eq_false_of_isBlank (hblanks c hmem)
        have hlonger := Reads.operand hskip hfirst hword hrest position
        have htext : (first :: (run ++ blanks)).filter (!Text.isBlank ·) =
            (first :: run).filter (!Text.isBlank ·) := by
          have hnone : blanks.filter (!Text.isBlank ·) = [] := by
            simpa [List.filter_eq_nil_iff] using hblanks
          rw [← List.cons_append, List.filter_append, hnone, List.append_nil]
        rw [htext] at hlonger
        simp only [List.append_assoc, List.cons_append, List.append_nil] at hlonger ⊢
        rw [hlonger.tokens_eq, tokens_eq_nil (by simp), tokens_eq_nil (by simp)]
      | cons next later =>
        have hstop : ∀ c ∈ (next :: later ++ blanks).head?, isControl c = true := hrest
        have hlonger := Reads.operand hskip hfirst hrun hstop position
        simp only [List.append_assoc, List.cons_append] at hlonger ih ⊢
        rw [hlonger.tokens_eq, ih]

end Scanner

end Calculator
