import Calculator.CharRoles
import Calculator.Text.Blank
import Calculator.Token

/-!
# Scanning

A scanner walks over a text and gives its tokens from left to right. A control character is a
token by itself; an operand reaches to the next control character, and the blanks inside it are
dropped. Each token shortens what is left to scan, so scanning ends.
-/

namespace Calculator

/-- Whether a character is a token by itself. -/
def isControl (c : Char) : Bool :=
  (CharRoles.ofChar c).isControl

/-- The kind of the token that a control character is. -/
def Token.Kind.ofControl? (c : Char) : Option Token.Kind :=
  if c = '(' then some .opening
  else if c = ')' then some .closing
  else (Operator.written? c).map .operator

/-- Exactly the control characters are tokens by themselves. -/
theorem Token.Kind.isSome_ofControl? (c : Char) :
    (Token.Kind.ofControl? c).isSome = isControl c := by
  unfold ofControl? isControl CharRoles.isControl CharRoles.ofChar
  by_cases hopen : c = '('
  · simp [hopen]
  · by_cases hclose : c = ')' <;> simp [hopen, hclose]

/-- The text that is left to scan and the index of its first character. -/
structure Scanner where
  rest : List Char
  position : Nat

namespace Scanner

/-- A scanner at the start of a text. -/
def ofList (text : List Char) : Scanner :=
  ⟨text, 0⟩

/-- The scanner behind the blanks at its place. -/
def skipBlanks (s : Scanner) : Scanner :=
  ⟨s.rest.dropWhile Text.isBlank, s.position + (s.rest.takeWhile Text.isBlank).length⟩

/-- The operand that begins at the scanner's place, and the scanner behind it. -/
def operand (s : Scanner) : Token × Scanner :=
  let run := s.rest.takeWhile (!isControl ·)
  (⟨.operand, String.ofList (run.filter (!Text.isBlank ·)), s.position⟩,
    ⟨s.rest.dropWhile (!isControl ·), s.position + run.length⟩)

/-- The next token and the scanner behind it; none if only blanks are left. -/
def next? (s : Scanner) : Option (Token × Scanner) :=
  match s.skipBlanks with
  | ⟨[], _⟩ => none
  | ⟨c :: rest, position⟩ =>
    match Token.Kind.ofControl? c with
    | some kind => some (⟨kind, String.singleton c, position⟩, ⟨rest, position + 1⟩)
    | none => some (operand ⟨c :: rest, position⟩)

/-- Every token takes at least one character. -/
theorem length_lt_of_next? {s after : Scanner} {token : Token}
    (h : s.next? = some (token, after)) : after.rest.length < s.rest.length := by
  unfold next? skipBlanks at h
  have hskip : (s.rest.dropWhile Text.isBlank).length ≤ s.rest.length :=
    (List.dropWhile_sublist _).length_le
  split at h
  · simp at h
  · rename_i c rest position heq
    simp only [Scanner.mk.injEq] at heq
    have hlen : rest.length < s.rest.length := by
      rw [heq.1, List.length_cons] at hskip
      omega
    split at h
    · simp only [Option.some.injEq, Prod.mk.injEq] at h
      rw [← h.2]
      exact hlen
    · rename_i hnone
      have hc : isControl c = false := by
        rw [← Token.Kind.isSome_ofControl?, hnone]
        rfl
      simp only [operand, Option.some.injEq, Prod.mk.injEq] at h
      rw [← h.2]
      have hrun : (rest.dropWhile (!isControl ·)).length ≤ rest.length :=
        (List.dropWhile_sublist _).length_le
      simp only [List.dropWhile_cons, hc, Bool.not_false, if_true]
      omega

/-- All tokens from the scanner's place on. -/
def tokens (s : Scanner) : List Token :=
  match _h : s.next? with
  | none => []
  | some (token, after) => token :: tokens after
termination_by s.rest.length
decreasing_by exact length_lt_of_next? _h

end Scanner

end Calculator
