import Calculator.Text.Printable

/-!
# Quoted texts

A quoted text stands between double quotes. Quotes and backslashes get a backslash, the common
control characters have letters, and other characters that cannot be shown are written as their
code point in hexadecimal.
-/

namespace Calculator.Text

/-- The code point of a character in braces. -/
def escapeCodePoint (c : Char) : List Char :=
  '\\' :: 'u' :: '{' :: Nat.toDigits 16 c.toNat ++ ['}']

/-- A character as it stands in a quoted text. -/
def escape (c : Char) : List Char :=
  if c = '\x00' then ['\\', '0']
  else if c = '\t' then ['\\', 't']
  else if c = '\r' then ['\\', 'r']
  else if c = '\n' then ['\\', 'n']
  else if c = '"' ∨ c = '\\' then ['\\', c]
  else if isPrintable c then [c]
  else escapeCodePoint c

/-- A text between double quotes. -/
def quote (text : String) : String :=
  String.ofList ('"' :: text.toList.flatMap escape ++ ['"'])

end Calculator.Text
