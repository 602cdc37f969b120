import Calculator.Proofs.Token.Located
import Calculator.Proofs.Token.Unplaced
import Mathlib.Data.List.Chain

/-!
# The factorization of a text

The tokens of a text are its only factorization. Their texts make up the text without its blanks, no
two operands are neighbours, every token is written as what it stands for, and positions count the
characters of the text. Only positions depend on the blanks.
-/

namespace Calculator

open Text

namespace Token

/-- The characters of tokens, one token after the other. -/
def chars (tokens : List Token) : List Char :=
  tokens.flatMap (·.text.toList)

/-- Whether an operand can have a text: it has a character, and no blank, parenthesis or symbol of a
binary operator is among them. -/
def IsOperandText (text : String) : Prop :=
  text ≠ "" ∧ ∀ c ∈ text.toList,
    isBlank c = false ∧ c ≠ '(' ∧ c ≠ ')' ∧ Operator.written? c = none

/-- Whether a token is written as what it stands for: a parenthesis and an operator as the one
character that they are known by. -/
def IsWritten (token : Token) : Prop :=
  match token.kind with
  | .operand => IsOperandText token.text
  | .opening => token.text = "("
  | .closing => token.text = ")"
  | .operator op => token.text = String.singleton op.symbol ∧ Operator.written? op.symbol = some op

/-- Whether tokens are the factorization of a text. -/
structure Factorizes (text : List Char) (tokens : List Token) : Prop where
  /-- Nothing but blanks is lost. -/
  chars_eq : chars tokens = filled text
  /-- No two operands are neighbours. -/
  separated : tokens.IsChain fun first second => ¬(first.kind = .operand ∧ second.kind = .operand)
  written : ∀ token ∈ tokens, token.IsWritten
  increasing : tokens.Pairwise (·.position < ·.position)
  /-- A position is the index of the first character of its token: in front of it stand the tokens
  before. -/
  located : ∀ before token after, tokens = before ++ token :: after →
    text[token.position]? = token.text.toList.head? ∧
      filled (text.take token.position) = chars before

/-- What is not an operand is written as the control character of its kind. -/
theorem IsWritten.exists_control {token : Token} (hwritten : token.IsWritten)
    (hkind : token.kind ≠ .operand) :
    ∃ c, Kind.ofControl? c = some token.kind ∧ token.text = String.singleton c := by
  obtain ⟨kind, text, position⟩ := token
  cases kind with
  | operand => exact absurd rfl hkind
  | opening => exact ⟨'(', rfl, hwritten⟩
  | closing => exact ⟨')', rfl, hwritten⟩
  | operator op => exact ⟨op.symbol, Kind.ofControl?_of_written? hwritten.2, hwritten.1⟩

/-- A control character is no operand. -/
theorem Kind.ofControl?_ne_operand (c : Char) : Kind.ofControl? c ≠ some .operand := by
  intro hkind
  rcases ofControl?_cases hkind with ⟨-, h⟩ | ⟨-, h⟩ | ⟨op, h, -⟩ <;> cases h

/-- A control character is the written form of its kind. -/
theorem isWritten_of_ofControl? {c : Char} {kind : Kind} (hkind : Kind.ofControl? c = some kind)
    (position : Nat) : IsWritten ⟨kind, String.singleton c, position⟩ := by
  rcases Kind.ofControl?_cases hkind with ⟨rfl, rfl⟩ | ⟨rfl, rfl⟩ | ⟨op, rfl, rfl, hop⟩
  · rfl
  · rfl
  · exact ⟨rfl, hop⟩

end Token

namespace Scanner

open Token

/-- The scanner reads tokens that are written as what they stand for. -/
theorem Reads.isWritten {s after : Scanner} {token : Token} (hreads : Reads s token after) :
    token.IsWritten := by
  cases hreads with
  | control hblanks hkind rest position => exact isWritten_of_ofControl? hkind _
  | @operand blanks hblanks first run hfirst hrun rest hrest position =>
    refine ⟨?_, fun c hc => ?_⟩
    · simp [hfirst]
    · rw [String.toList_ofList] at hc
      exact ⟨isBlank_of_mem_filled hc, isControl_eq_false_iff.mp (hrun c (List.mem_filter.mp hc).1)⟩

/-- Reading a token cuts the text in three: blanks, characters that the token keeps but for blanks,
and what is left. The first character is kept. -/
theorem Reads.exists_split {s after : Scanner} {token : Token} (hreads : Reads s token after) :
    ∃ blanks first run, s.rest = blanks ++ (first :: run ++ after.rest) ∧ filled blanks = [] ∧
      token.position = s.position + blanks.length ∧
      after.position = token.position + (first :: run).length ∧
      token.text.toList = filled (first :: run) ∧ token.text.toList.head? = some first := by
  cases hreads with
  | @control blanks hblanks c kind hkind rest position =>
    have hkept : filled [c] = [c] := filled_cons (Kind.isBlank_of_ofControl? hkind) []
    exact ⟨blanks, c, [], rfl, filled_eq_nil hblanks, rfl, rfl, by simp [hkept], by simp⟩
  | @operand blanks hblanks first run hfirst hrun rest hrest position =>
    exact ⟨blanks, first, run, rfl, filled_eq_nil hblanks, rfl, rfl, String.toList_ofList,
      by simp [hfirst]⟩

/-- A token of its own stands behind an operand. -/
theorem Reads.kind_ne_operand {s after : Scanner} {token : Token} (hreads : Reads s token after)
    (hkind : token.kind = .operand) : ∀ next ∈ after.tokens.head?, next.kind ≠ .operand := by
  cases hreads with
  | @control blanks hblanks c kind hcontrol rest position =>
    exact absurd (hcontrol.trans (congrArg some hkind)) (Kind.ofControl?_ne_operand c)
  | @operand blanks hblanks first run hfirst hrun rest hrest position =>
    cases rest with
    | nil => simp [tokens_eq_nil]
    | cons c rest =>
      obtain ⟨kind, hcontrol⟩ := Option.isSome_iff_exists.mp
        ((Kind.isSome_ofControl? c).trans (hrest c rfl))
      have hnext := Reads.control (List.forall_mem_nil _) hcontrol rest
        (position + blanks.length + (first :: run).length)
      rw [List.nil_append] at hnext
      rw [hnext.tokens_eq]
      intro next hmem hoperand
      obtain rfl := Option.some.inj hmem
      exact Kind.ofControl?_ne_operand c (hcontrol.trans (congrArg some hoperand))

/-- What the scanner reads makes up its text without the blanks. -/
theorem chars_tokens (s : Scanner) : chars s.tokens = filled s.rest := by
  induction s using reads_induction with
  | blanks s hblanks =>
    rw [tokens_eq_nil hblanks, filled_eq_nil hblanks]
    rfl
  | reads hreads ih =>
    obtain ⟨blanks, first, run, hsplit, hblanks, -, -, htext, -⟩ := hreads.exists_split
    rw [hreads.tokens_eq, hsplit, filled_append, hblanks, filled_append, ← htext, ← ih]
    rfl

/-- The scanner reads no two operands in a row. -/
theorem isChain_tokens (s : Scanner) : s.tokens.IsChain fun first second =>
    ¬(first.kind = .operand ∧ second.kind = .operand) := by
  induction s using reads_induction with
  | blanks s hblanks =>
    rw [tokens_eq_nil hblanks]
    exact .nil
  | reads hreads ih =>
    rw [hreads.tokens_eq]
    exact List.isChain_cons.mpr
      ⟨fun next hmem hboth => hreads.kind_ne_operand hboth.1 next hmem hboth.2, ih⟩

/-- All tokens of a text are written as what they stand for. -/
theorem isWritten_of_mem_tokens (s : Scanner) : ∀ token ∈ s.tokens, token.IsWritten :=
  forall_mem_tokens Reads.isWritten s

/-- A token of a text stands `place` characters behind the scanner, where its first character is;
in front of it stand the tokens before. -/
theorem exists_place (s : Scanner) {before after : List Token} {token : Token}
    (hsplit : s.tokens = before ++ token :: after) :
    ∃ place, token.position = s.position + place ∧
      s.rest[place]? = token.text.toList.head? ∧ filled (s.rest.take place) = chars before := by
  induction s using reads_induction generalizing before with
  | blanks s hblanks =>
    rw [tokens_eq_nil hblanks] at hsplit
    simp at hsplit
  | reads hreads ih =>
    obtain ⟨blanks, first, run, hrest, hblanks, hposition, hlater, htext, hhead⟩ :=
      hreads.exists_split
    rw [hreads.tokens_eq] at hsplit
    rw [hrest]
    cases before with
    | nil =>
      obtain ⟨rfl, -⟩ := List.cons_eq_cons.mp hsplit
      exact ⟨blanks.length, hposition, by simp [hhead],
        by rw [List.take_left, hblanks]; rfl⟩
    | cons front before =>
      obtain ⟨rfl, hbehind⟩ := List.cons_eq_cons.mp hsplit
      obtain ⟨place, hplace, hfirst, hbefore⟩ := ih hbehind
      refine ⟨(blanks ++ first :: run).length + place, ?_, ?_, ?_⟩
      · rw [hplace, hlater, hposition, List.length_append]
        omega
      · rw [← List.append_assoc, List.getElem?_append_right (by omega), Nat.add_sub_cancel_left,
          hfirst]
      · rw [← List.append_assoc, List.take_length_add_append, filled_append, filled_append,
          hblanks, ← htext, hbefore]
        rfl

/-- The tokens of a text are a factorization of it. -/
theorem factorizes_tokens (text : List Char) : Factorizes text (ofList text).tokens where
  chars_eq := chars_tokens (ofList text)
  separated := isChain_tokens (ofList text)
  written := isWritten_of_mem_tokens (ofList text)
  increasing := pairwise_position (ofList text)
  located before token after hsplit := by
    obtain ⟨place, hplace, hlocated⟩ := exists_place (ofList text) hsplit
    rw [hplace]
    simpa only [ofList, Nat.zero_add] using hlocated

/-- The characters of tokens that are separated and written as what they stand for are scanned as
these tokens again. -/
theorem map_unplaced_tokens_chars {tokens : List Token}
    (hseparated : tokens.IsChain fun first second =>
      ¬(first.kind = .operand ∧ second.kind = .operand))
    (hwritten : ∀ token ∈ tokens, token.IsWritten) (position : Nat) :
    (Scanner.tokens ⟨chars tokens, position⟩).map unplaced = tokens.map unplaced := by
  induction tokens generalizing position with
  | nil => rw [tokens_eq_nil (by simp [chars])]
  | cons token rest ih =>
    obtain ⟨hnext, hrest⟩ := List.isChain_cons.mp hseparated
    obtain ⟨htoken, hothers⟩ := List.forall_mem_cons.mp hwritten
    have hchars : chars (token :: rest) = token.text.toList ++ chars rest := rfl
    by_cases hkind : token.kind = .operand
    · have hstop : ∀ c ∈ (chars rest).head?, isControl c = true := by
        cases rest with
        | nil => simp [chars]
        | cons next others =>
          obtain ⟨c, hcontrol, htext⟩ := (hothers next List.mem_cons_self).exists_control
            fun hoperand => hnext next rfl ⟨hkind, hoperand⟩
          simp [chars, htext, ← Kind.isSome_ofControl?, hcontrol]
      obtain ⟨kind, text, start⟩ := token
      obtain rfl : kind = .operand := hkind
      obtain ⟨hne, hplain⟩ := htoken
      obtain ⟨first, run, hword⟩ :=
        List.exists_cons_of_ne_nil (mt String.toList_eq_nil_iff.mp hne)
      simp only [hword] at hchars hplain
      have hreads := Reads.operand (List.forall_mem_nil _) (hplain first List.mem_cons_self).1
        (fun c hc => isControl_eq_false_iff.mpr (hplain c hc).2) hstop position
      have hkept : (first :: run).filter (!isBlank ·) = first :: run :=
        filled_eq_self fun c hc => (hplain c hc).1
      rw [hkept, ← hword, String.ofList_toList, List.nil_append, hword] at hreads
      rw [hchars, hreads.tokens_eq, List.map_cons, List.map_cons, ih hrest hothers]
      rfl
    · obtain ⟨c, hcontrol, htext⟩ := htoken.exists_control hkind
      have hreads := Reads.control (List.forall_mem_nil _) hcontrol (chars rest) position
      rw [htext, String.toList_singleton] at hchars
      rw [List.nil_append] at hreads
      rw [hchars, List.singleton_append, hreads.tokens_eq, List.map_cons, List.map_cons,
        ih hrest hothers, ← htext]
      rfl

end Scanner

namespace Token

/-- More characters other than blanks stand before a later place. -/
theorem length_filled_take_lt {text : List Char} {place other : Nat} {c : Char}
    (hplace : text[place]? = some c) (hc : isBlank c = false) (hlt : place < other) :
    (filled (text.take place)).length < (filled (text.take other)).length := by
  have hnext : filled (text.take (place + 1)) = filled (text.take place) ++ [c] := by
    rw [List.take_add_one, hplace, filled_append]
    exact congrArg _ (filled_cons hc [])
  have hkept : (filled (text.take (place + 1))).Sublist (filled (text.take other)) :=
    (List.take_sublist_take_left hlt).filter _
  have hle := hkept.length_le
  rw [hnext, List.length_append, List.length_singleton] at hle
  omega

/-- The place of a character other than a blank is known from what stands before it but for
blanks. -/
theorem eq_of_filled_take {text : List Char} {place other : Nat} {c d : Char}
    (hplace : text[place]? = some c) (hc : isBlank c = false)
    (hother : text[other]? = some d) (hd : isBlank d = false)
    (hsame : filled (text.take place) = filled (text.take other)) : place = other := by
  rcases Nat.lt_trichotomy place other with hlt | heq | hlt
  · exact absurd (congrArg List.length hsame) (length_filled_take_lt hplace hc hlt).ne
  · exact heq
  · exact absurd (congrArg List.length hsame) (length_filled_take_lt hother hd hlt).ne'

/-- What a token is written with begins with a character other than a blank. -/
theorem IsWritten.exists_head {token : Token} (hwritten : token.IsWritten) :
    ∃ c, token.text.toList.head? = some c ∧ isBlank c = false := by
  by_cases hkind : token.kind = .operand
  · obtain ⟨kind, text, position⟩ := token
    obtain rfl : kind = .operand := hkind
    obtain ⟨first, run, hword⟩ :=
      List.exists_cons_of_ne_nil (mt String.toList_eq_nil_iff.mp hwritten.1)
    exact ⟨first, by simp [hword], (hwritten.2 first (by simp [hword])).1⟩
  · obtain ⟨c, hcontrol, htext⟩ := hwritten.exists_control hkind
    exact ⟨c, by simp [htext], Kind.isBlank_of_ofControl? hcontrol⟩

/-- Tokens at other places have the same characters. -/
theorem chars_map_unplaced (tokens : List Token) : chars (tokens.map unplaced) = chars tokens := by
  rw [chars, List.flatMap_map]
  rfl

/-- A token is known by its place and by what it is elsewhere. -/
theorem eq_of_unplaced {first second : Token} (hunplaced : first.unplaced = second.unplaced)
    (hposition : first.position = second.position) : first = second := by
  obtain ⟨kind, text, position⟩ := first
  obtain ⟨otherKind, otherText, other⟩ := second
  obtain rfl : position = other := hposition
  simpa [unplaced] using hunplaced

/-- The position of a token is the place of a character other than a blank. -/
theorem Factorizes.exists_getElem {text : List Char} {tokens : List Token}
    (htokens : Factorizes text tokens) {i : Nat} (hi : i < tokens.length) :
    ∃ c, text[tokens[i].position]? = some c ∧ isBlank c = false ∧
      filled (text.take tokens[i].position) = chars (tokens.take i) := by
  have hsplit : tokens = tokens.take i ++ tokens[i] :: tokens.drop (i + 1) := by
    rw [List.getElem_cons_drop, List.take_append_drop]
  obtain ⟨hfirst, hbefore⟩ := htokens.located _ _ _ hsplit
  obtain ⟨c, hhead, hc⟩ := (htokens.written _ (List.getElem_mem hi)).exists_head
  exact ⟨c, hfirst.trans hhead, hc, hbefore⟩

/-- A text has only one factorization. -/
theorem Factorizes.eq {text : List Char} {first second : List Token}
    (hfirst : Factorizes text first) (hsecond : Factorizes text second) : first = second := by
  have hsame : first.map unplaced = second.map unplaced := by
    rw [← Scanner.map_unplaced_tokens_chars hfirst.separated hfirst.written 0,
      ← Scanner.map_unplaced_tokens_chars hsecond.separated hsecond.written 0, hfirst.chars_eq,
      hsecond.chars_eq]
  refine List.ext_getElem (by simpa using congrArg List.length hsame) fun i hi hj => ?_
  obtain ⟨c, hplace, hc, hbefore⟩ := hfirst.exists_getElem hi
  obtain ⟨d, hother, hd, hbehind⟩ := hsecond.exists_getElem hj
  have hchars : chars (first.take i) = chars (second.take i) := by
    rw [← chars_map_unplaced, List.map_take, hsame, ← List.map_take, chars_map_unplaced]
  have hposition : first[i].position = second[i].position :=
    eq_of_filled_take hplace hc hother hd (by rw [hbefore, hbehind, hchars])
  have hunplaced := congrArg (·[i]?) hsame
  simp only [List.getElem?_map, List.getElem?_eq_getElem hi, List.getElem?_eq_getElem hj,
    Option.map_some, Option.some.injEq] at hunplaced
  exact eq_of_unplaced hunplaced hposition

/-- The tokens of a text are its only factorization. Blanks decide on their positions, but neither
on their kinds nor on their texts. -/
theorem factorizes_iff (text : List Char) :
    (∀ tokens, Factorizes text tokens ↔ tokens = (Scanner.ofList text).tokens) ∧
    (Scanner.ofList text).tokens.map (fun token => (token.kind, token.text)) =
      (Scanner.ofList (filled text)).tokens.map fun token => (token.kind, token.text) := by
  refine ⟨fun tokens => ⟨fun htokens => htokens.eq (Scanner.factorizes_tokens text), ?_⟩, ?_⟩
  · rintro rfl
    exact Scanner.factorizes_tokens text
  · have hsame := congrArg (List.map fun token => (token.kind, token.text))
      (Scanner.map_unplaced_tokens (Scanner.ofList text) 0)
    rwa [List.map_map, List.map_map] at hsame

end Token

end Calculator
