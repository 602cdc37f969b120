import Calculator.Proofs.Token.Standard

/-!
# Where tokens stand

A token says where it stands in its text: its position is the index of a control character, or of
the first character of a word that reaches from one control character to the next. Every word is
scanned as an operand, and positions increase from token to token.
-/

namespace Calculator

/-- The word that begins at a position of a text: what is left without the blanks of a run that has
no control character, has one on either side or an end of the text, and has its first character
other than a blank at that position. -/
inductive WordAt (text : List Char) (position : Nat) (word : String) : Prop
  | intro {before blanks rest after : List Char} {first : Char}
      (htext : text = before ++ (blanks ++ first :: rest ++ after))
      (hbefore : ∀ c ∈ before.getLast?, isControl c = true)
      (hrun : ∀ c ∈ blanks ++ first :: rest, isControl c = false)
      (hafter : ∀ c ∈ after.head?, isControl c = true)
      (hblanks : ∀ c ∈ blanks, Text.isBlank c = true) (hfirst : Text.isBlank first = false)
      (hposition : position = before.length + blanks.length)
      (hword : word = String.ofList ((blanks ++ first :: rest).filter (!Text.isBlank ·)))

/-- The character that an operator with the given symbol is written with. -/
def Operator.mark (symbol : Char) : Char :=
  if symbol = negation.symbol then '-' else symbol

/-- What stands in a text at the position of a token is what the token stands for. -/
def Token.Marks (text : List Char) (token : Token) : Prop :=
  match token.kind with
  | .operand => WordAt text token.position token.text
  | .opening => text[token.position]? = some '('
  | .closing => text[token.position]? = some ')'
  | .operator op => text[token.position]? = some (Operator.mark op.symbol)

namespace Scanner

/-- A control character marks its place. -/
theorem marks_control {text : List Char} {c : Char} {kind : Token.Kind} {position : Nat}
    (hkind : Token.Kind.ofControl? c = some kind) (hc : text[position]? = some c) (word : String) :
    Token.Marks text ⟨kind, word, position⟩ := by
  rcases Token.Kind.ofControl?_cases hkind with ⟨rfl, rfl⟩ | ⟨rfl, rfl⟩ | ⟨op, rfl, rfl, hop⟩
  · exact hc
  · exact hc
  · obtain ⟨hmem, harity, -⟩ := Operator.written?_eq_some_iff.mp hop
    have hwritten : ∀ op ∈ Operator.table, op.arity = 2 →
        Operator.mark op.symbol = op.symbol := by decide
    simp only [Token.Marks, hwritten op hmem harity]
    exact hc

/-- Every token marks what it stands for, if the text before the scanner ends in a control character
or the scanner is at one. -/
theorem marks_of_mem_tokens (s : Scanner) {before : List Char}
    (hposition : before.length = s.position)
    (hbefore : (∀ c ∈ before.getLast?, isControl c = true) ∨
      ∀ c ∈ s.rest.head?, isControl c = true) :
    ∀ token ∈ s.tokens, token.Marks (before ++ s.rest) := by
  induction s using reads_induction generalizing before with
  | blanks s hblanks =>
    rw [tokens_eq_nil hblanks]
    exact List.forall_mem_nil _
  | reads hreads ih =>
    rw [hreads.tokens_eq]
    refine List.forall_mem_cons.mpr ?_
    cases hreads with
    | @control blanks hblanks c kind hkind rest position =>
      have hlater := @ih (before ++ blanks ++ [c]) (by simp [hposition]; omega)
        (.inl (by simpa using Token.Kind.isControl_of_ofControl? hkind))
      simp only [List.append_assoc, List.cons_append, List.nil_append] at hlater
      simp only at hposition
      exact ⟨marks_control hkind (by simp [← hposition]) _, hlater⟩
    | @operand blanks hblanks first run hfirst hrun rest hrest position =>
      have hword : ∀ c ∈ blanks ++ first :: run, isControl c = false := fun c hc =>
        (List.mem_append.mp hc).elim (fun h => isControl_eq_false_of_isBlank (hblanks c h)) (hrun c)
      -- The text before does not end inside of a word, because no control character is next.
      have hends : ∀ c ∈ before.getLast?, isControl c = true := by
        refine hbefore.resolve_right fun hhead => ?_
        cases blanks with
        | nil => simp [hrun first (by simp)] at hhead
        | cons blank blanks =>
          simp [isControl_eq_false_of_isBlank (hblanks blank (by simp))] at hhead
      have hfilter : (blanks ++ first :: run).filter (!Text.isBlank ·) =
          (first :: run).filter (!Text.isBlank ·) :=
        filter_append_of_forall (by simpa using hblanks) _
      have hlater := @ih (before ++ (blanks ++ first :: run)) (by simp [hposition]; omega)
        (.inr hrest)
      simp only [List.append_assoc, List.cons_append] at hlater
      refine ⟨?_, by simpa only [List.cons_append] using hlater⟩
      exact .intro (by simp) hends hword hrest hblanks hfirst (by simp [hposition])
        (by rw [hfilter])

/-- A token stands between the scanner that reads it and the scanner behind it. -/
theorem Reads.position_lt {s after : Scanner} {token : Token} (hreads : Reads s token after) :
    s.position ≤ token.position ∧ token.position < after.position := by
  cases hreads <;> simp

/-- No token stands before its scanner. -/
theorem position_le_of_mem_tokens (s : Scanner) :
    ∀ token ∈ s.tokens, s.position ≤ token.position := by
  induction s using reads_induction with
  | blanks s hblanks =>
    rw [tokens_eq_nil hblanks]
    exact List.forall_mem_nil _
  | reads hreads ih =>
    obtain ⟨hle, hlt⟩ := hreads.position_lt
    rw [hreads.tokens_eq]
    refine List.forall_mem_cons.mpr ⟨hle, fun later hmem => ?_⟩
    have hlater := ih later hmem
    omega

/-- Positions increase from token to token. -/
theorem pairwise_position (s : Scanner) : s.tokens.Pairwise (·.position < ·.position) := by
  induction s using reads_induction with
  | blanks s hblanks =>
    rw [tokens_eq_nil hblanks]
    exact .nil
  | @reads s token after hreads ih =>
    have hlt := hreads.position_lt.2
    rw [hreads.tokens_eq]
    refine List.pairwise_cons.mpr ⟨fun later hmem => ?_, ih⟩
    have hle := position_le_of_mem_tokens after later hmem
    omega

/-- Scanning begins anew behind a control character and at one. -/
theorem tokens_append (s : Scanner) {rest : List Char}
    (hcut : (∀ c ∈ s.rest.getLast?, isControl c = true) ∨ ∀ c ∈ rest.head?, isControl c = true) :
    tokens ⟨s.rest ++ rest, s.position⟩ =
      s.tokens ++ tokens ⟨rest, s.position + s.rest.length⟩ := by
  induction s using reads_induction with
  | blanks s hblanks =>
    rw [tokens_eq_nil hblanks, tokens_blanks_append hblanks, List.nil_append]
  | reads hreads ih =>
    rw [hreads.tokens_eq]
    cases hreads with
    | @control blanks hblanks c kind hkind later position =>
      have hlonger := Reads.control hblanks hkind (later ++ rest) position
      have hmore := ih (hcut.imp_left fun hlast d hd =>
        hlast d (by simp [List.getLast?_append, List.getLast?_cons, Option.mem_def.mp hd]))
      simp only [List.append_assoc, List.cons_append]
      rw [hlonger.tokens_eq, hmore]
      simp only [List.length_append, List.length_cons]
      congr 4
      omega
    | @operand blanks hblanks first run hfirst hrun later hstop position =>
      have hend : ∀ c ∈ (later ++ rest).head?, isControl c = true := by
        cases later with
        | cons next later => exact hstop
        | nil =>
          -- The word ends the text before the cut, so that the cut must be at a control character.
          refine hcut.resolve_left fun hlast => ?_
          have hmem : (first :: run).getLast (by simp) ∈ first :: run := List.getLast_mem _
          have hcontrol := hlast ((first :: run).getLast (by simp)) (by
            simp [List.getLast?_append, List.getLast?_cons, List.getLast_eq_getLastD])
          rw [hrun _ hmem] at hcontrol
          cases hcontrol
      have hlonger := Reads.operand hblanks hfirst hrun hend position
      have hmore := ih (hcut.imp_left fun hlast d (hd : d ∈ later.getLast?) =>
        hlast d (by simp [List.getLast?_append, List.getLast?_cons, Option.mem_def.mp hd]))
      simp only [List.append_assoc, List.cons_append] at hlonger hmore ⊢
      rw [hlonger.tokens_eq, hmore]
      simp only [List.length_append, List.length_cons]
      congr 4
      omega

/-- Every word of a text is scanned as an operand. -/
theorem mem_tokens_of_wordAt {text : List Char} {position : Nat} {word : String}
    (hword : WordAt text position word) :
    ⟨.operand, word, position⟩ ∈ (ofList text).tokens := by
  obtain ⟨rfl, hbefore, hrun, hafter, hblanks, hfirst, rfl, rfl⟩ := hword
  rename_i before blanks rest after first
  have hreads := Reads.operand hblanks hfirst
    (fun c hc => hrun c (List.mem_append_right _ hc)) hafter before.length
  have hfilter : (blanks ++ first :: rest).filter (!Text.isBlank ·) =
      (first :: rest).filter (!Text.isBlank ·) :=
    filter_append_of_forall (by simpa using hblanks) _
  have happend := @tokens_append (ofList before) (blanks ++ (first :: rest ++ after)) (.inl hbefore)
  simp only [ofList, Nat.zero_add] at happend ⊢
  rw [List.append_assoc, happend, hreads.tokens_eq, hfilter]
  exact List.mem_append_right _ List.mem_cons_self

end Scanner

namespace Token

/-- Resolving a minus sign leaves a token that marks what it stands for. -/
theorem Marks.resolveAfter {text : List Char} {options : Options} {previous : Option Kind}
    {token : Token} (hmarks : token.Marks text) :
    (Token.resolveAfter options previous token).Marks text := by
  unfold Token.resolveAfter
  split
  · rename_i hresolved
    rw [Bool.and_eq_true] at hresolved
    obtain ⟨kind, word, position⟩ := token
    cases kind with
    | operand | opening | closing => cases hresolved.1
    | operator op =>
      have hsymbol : op.symbol = '-' := by simpa [isSubtraction] using hresolved.1
      simp only [Marks, hsymbol] at hmarks
      exact hmarks
  · exact hmarks

/-- The tokens of an expression mark what they stand for in the part that is evaluated. -/
theorem marks_tokens (options : Options) (expression : String) :
    ∀ token ∈ Expression.tokens options expression,
      token.Marks (Expression.trimmed options expression) :=
  @Scanner.marks_of_mem_tokens (.ofList _) [] rfl (.inl nofun)

/-- They do so, too, when their minus signs are resolved. -/
theorem marks_resolve (options : Options) (expression : String) :
    ∀ token ∈ resolve options (Expression.tokens options expression),
      token.Marks (Expression.trimmed options expression) :=
  forall_mem_resolveFrom fun token htoken _ =>
    (marks_tokens options expression token htoken).resolveAfter

end Token

end Calculator
