import Calculator.Proofs.Call.Bytes
import Calculator.Proofs.Evaluation.Cause

/-!
# Messages of a status

A status has room for the first bytes of a message, and a zero byte would end it. The message of a
failure has none if the expression has no zero character: besides fixed words and numbers it quotes
nothing but what stands in the expression and the symbol of negation.
-/

namespace Calculator

/-- The digits of a number have no zero character. -/
theorem zero_not_mem_repr (n : Nat) : '\x00' ∉ n.repr.toList := by
  rw [Nat.toList_repr]
  intro hmem
  cases Nat.isDigit_of_mem_toDigits (by decide) (by decide) hmem

/-- A text of two parts without the zero character has no such character. -/
theorem zero_not_mem_append {first second : String} (hfirst : '\x00' ∉ first.toList)
    (hsecond : '\x00' ∉ second.toList) : '\x00' ∉ (first ++ second).toList := by
  rw [String.toList_append, List.mem_append, not_or]
  exact ⟨hfirst, hsecond⟩

/-- A character other than zero is a text without the zero character. -/
theorem zero_not_mem_singleton {c : Char} (hc : c ≠ '\x00') :
    '\x00' ∉ (String.singleton c).toList := by
  rw [String.toList_singleton, List.mem_singleton]
  exact hc.symm

/-- The characters of a word are characters of its text. -/
theorem WordAt.mem_of_mem {text : List Char} {position : Nat} {word : String}
    (hword : WordAt text position word) {c : Char} (hc : c ∈ word.toList) : c ∈ text := by
  obtain ⟨rfl, -, -, -, -, -, -, rfl⟩ := hword
  rw [String.toList_ofList] at hc
  exact List.mem_append_right _ (List.mem_append_left _ (List.mem_filter.mp hc).1)

/-- An operator that is written in a text without the zero character has another symbol. -/
theorem Operator.ne_zero_of_mark {text : List Char} {position : Nat} {symbol : Char}
    (hmark : text[position]? = some (mark symbol)) (htext : '\x00' ∉ text) : symbol ≠ '\x00' := by
  rintro rfl
  exact htext (List.mem_of_getElem? hmark)

namespace Failure

/-- If a failure points at its cause in a text without the zero character, its message has no such
character. -/
theorem PointsAtCause.zero_not_mem_message {kind : NumberKind} {source : Variables kind.Value}
    {text : List Char} {failure : Failure} (hpoints : failure.PointsAtCause kind source text)
    (htext : '\x00' ∉ text) : '\x00' ∉ failure.message.toList := by
  have hnumber := zero_not_mem_repr
  cases failure with
  | noValue => decide
  | unknownOperand word position =>
    have hword : '\x00' ∉ word.toList := fun hmem => htext (hpoints.1.mem_of_mem hmem)
    refine zero_not_mem_append (zero_not_mem_append ?_ (by decide)) (hnumber position)
    exact zero_not_mem_append (by decide) hword
  | tooFewOperands symbol position expected found =>
    have hsymbol := zero_not_mem_singleton (Operator.ne_zero_of_mark hpoints.1 htext)
    refine zero_not_mem_append (zero_not_mem_append ?_ (by decide)) (hnumber found)
    refine zero_not_mem_append (zero_not_mem_append ?_ (by decide)) (hnumber expected)
    refine zero_not_mem_append (zero_not_mem_append ?_ (by decide)) (hnumber position)
    exact zero_not_mem_append (by decide) hsymbol
  | strayParenthesis position found =>
    have hfound : found ≠ '\x00' := fun heq => htext (heq ▸ List.mem_of_getElem? hpoints)
    refine zero_not_mem_append (zero_not_mem_append ?_ (zero_not_mem_singleton hfound)) (by decide)
    exact zero_not_mem_append (zero_not_mem_append (by decide) (hnumber position)) (by decide)
  | zeroDivisor position => exact zero_not_mem_append (by decide) (hnumber position)
  | outOfRange symbol position =>
    have hsymbol := zero_not_mem_singleton (Operator.ne_zero_of_mark hpoints.1 htext)
    refine zero_not_mem_append (zero_not_mem_append ?_ (by decide)) (hnumber position)
    exact zero_not_mem_append (by decide) hsymbol
  | tooManyValues count =>
    exact zero_not_mem_append (zero_not_mem_append (by decide) (hnumber count)) (by decide)

end Failure

end Calculator
