import Calculator.Proofs.Machine.OperatorTree
import Calculator.Proofs.OperatorTable
import Calculator.Token.Scanner

/-!
# Infix expressions

The grammar of well-formed expressions, with the blanks behind every token:

    sum     ::= product | sum (+ | -) product
    product ::= unary | product (* | / | %) unary
    unary   ::= power | - signed
    power   ::= atom | atom ^ signed
    atom    ::= operand | ( sum )

What may stand behind a minus sign and behind `^` is a power in the plain grammar. In the chained
grammar it is any unary expression, so that a minus sign may stand directly behind `^` or behind
another minus sign. Each expression has a text, tokens and an operator tree.
-/

namespace Calculator

/-- Blanks between two tokens, or none. -/
structure Blanks where
  chars : List Char
  isBlank : ∀ c ∈ chars, Text.isBlank c = true

/-- No blanks. -/
def Blanks.none : Blanks :=
  ⟨[], List.forall_mem_nil _⟩

/-- The text of an operand: neither blanks nor control characters, and not empty. -/
structure Word where
  first : Char
  rest : List Char
  plain : ∀ c ∈ first :: rest, Text.isBlank c = false ∧ isControl c = false

/-- A word of one character. -/
def Word.single (c : Char) (hplain : Text.isBlank c = false ∧ isControl c = false) : Word :=
  ⟨c, [], List.forall_mem_singleton.mpr hplain⟩

/-- The characters of a word. -/
def Word.chars (word : Word) : List Char :=
  word.first :: word.rest

/-- The name of a variable or the digits of a literal. -/
def Word.text (word : Word) : String :=
  String.ofList word.chars

/-- How tightly an expression holds together. -/
inductive Rank
  | sum
  | product
  | unary
  | power
  | atom
deriving DecidableEq

namespace Rank

/-- The next tighter rank. -/
def tighter? : Rank → Option Rank
  | sum => some product
  | product => some unary
  | unary => some power
  | power => some atom
  | atom => none

/-- The rank of what stands behind a minus sign or behind `^`. -/
def signed : Bool → Rank
  | true => unary
  | false => power

end Rank

/-- The rank of the expressions that an operation joins from left to right. -/
def BinaryOperation.rank? : BinaryOperation → Option Rank
  | add | subtract => some .sum
  | multiply | divide | modulo => some .product
  | power => none

/-- An expression of a rank. If `chained`, a minus sign may stand directly behind `^` or behind
another minus sign. -/
inductive Infix (chained : Bool) : Rank → Type
  | operand (word : Word) (gap : Blanks) : Infix chained .atom
  | group (gap : Blanks) (body : Infix chained .sum) (after : Blanks) : Infix chained .atom
  /-- Every expression of the next tighter rank. -/
  | lift {rank tight : Rank} (htight : rank.tighter? = some tight) (body : Infix chained tight) :
      Infix chained rank
  | power (base : Infix chained .atom) (gap : Blanks)
      (exponent : Infix chained (.signed chained)) : Infix chained .power
  | negation (gap : Blanks) (body : Infix chained (.signed chained)) : Infix chained .unary
  /-- Sums and products group to the left. -/
  | binary {rank tight : Rank} (htight : rank.tighter? = some tight)
      (left : Infix chained rank) (operation : BinaryOperation)
      (hrank : operation.rank? = some rank) (gap : Blanks) (right : Infix chained tight) :
      Infix chained rank

/-- The token of a binary operation. -/
def BinaryOperation.token (operation : BinaryOperation) (position : Nat) : Token :=
  ⟨.operator operation.operator, String.singleton operation.operator.symbol, position⟩

/-- A minus sign in front of its operand. Before minus signs are resolved, `sign` is the
operator of subtraction; it becomes negation. -/
def Token.minus (sign : Operator) (position : Nat) : Token :=
  ⟨.operator sign, String.singleton '-', position⟩

/-- A binary operation at the root of a tree. -/
def OperatorToken.ofOperation (operation : BinaryOperation) (position : Nat) :
    OperatorToken (.binary operation) :=
  ⟨operation.operator, String.singleton operation.operator.symbol, position,
    operation.ofSymbol?_operator⟩

/-- A minus sign at the root of a tree. -/
def OperatorToken.minus (position : Nat) : OperatorToken .negate :=
  ⟨Operator.negation, String.singleton '-', position, rfl⟩

/-- An operand as a tree: the value of the variable that it names, or else a literal. -/
def OperatorTree.ofWord {α : Type} (source : Variables α) (word : Word) (position : Nat) :
    OperatorTree α :=
  match source word.text with
  | some x => .value x position
  | none => .operand word.text position

namespace Infix

variable {α : Type} {chained : Bool} {rank : Rank}

/-- An atom as a power. -/
def ofAtom (e : Infix chained .atom) : Infix chained .power :=
  lift rfl e

/-- A power as a unary expression. -/
def ofPower (e : Infix chained .power) : Infix chained .unary :=
  lift rfl e

/-- A unary expression as a product. -/
def ofUnary (e : Infix chained .unary) : Infix chained .product :=
  lift rfl e

/-- A product as a sum. -/
def ofProduct (e : Infix chained .product) : Infix chained .sum :=
  lift rfl e

/-- A difference. -/
def minus (left : Infix chained .sum) (gap : Blanks) (right : Infix chained .product) :
    Infix chained .sum :=
  binary rfl left .subtract rfl gap right

/-- The characters of an expression. -/
def render : {rank : Rank} → Infix chained rank → List Char
  | _, operand word gap => word.chars ++ gap.chars
  | _, group gap body after =>
    '(' :: gap.chars ++ body.render ++ ')' :: after.chars
  | _, lift _ body => body.render
  | _, power base gap exponent => base.render ++ '^' :: gap.chars ++ exponent.render
  | _, negation gap body => '-' :: gap.chars ++ body.render
  | _, binary _ left operation _ gap right =>
    left.render ++ operation.operator.symbol :: gap.chars ++ right.render

/-- The number of characters of an expression. -/
def width (e : Infix chained rank) : Nat :=
  e.render.length

/-- A group is as long as its two parentheses, its body and the blanks between them. -/
@[simp] theorem width_group (gap : Blanks) (body : Infix chained .sum) (after : Blanks) :
    (group gap body after).width =
      1 + gap.chars.length + body.width + (1 + after.chars.length) := by
  simp only [width, render, List.length_append, List.length_cons]
  omega

/-- An expression is equally long at every rank. -/
@[simp] theorem width_lift {tight : Rank} (htight : rank.tighter? = some tight)
    (body : Infix chained tight) : (lift htight body).width = body.width := rfl

/-- A power is as long as its parts, its operator and the blanks behind it. -/
@[simp] theorem width_power (base : Infix chained .atom) (gap : Blanks)
    (exponent : Infix chained (.signed chained)) :
    (power base gap exponent).width =
      base.width + (1 + gap.chars.length) + exponent.width := by
  simp only [width, render, List.length_append, List.length_cons]
  omega

/-- A negation is one character and its blanks longer than what it negates. -/
@[simp] theorem width_negation (gap : Blanks) (body : Infix chained (.signed chained)) :
    (negation gap body).width = 1 + gap.chars.length + body.width := by
  simp only [width, render, List.length_append, List.length_cons]
  omega

/-- A binary expression is as long as its sides, its operator and the blanks behind it. -/
@[simp] theorem width_binary {tight : Rank} (htight : rank.tighter? = some tight)
    (left : Infix chained rank) (operation : BinaryOperation)
    (hrank : operation.rank? = some rank) (gap : Blanks) (right : Infix chained tight) :
    (binary htight left operation hrank gap right).width =
      left.width + (1 + gap.chars.length) + right.width := by
  simp only [width, render, List.length_append, List.length_cons]
  omega

/-- The text of an expression behind leading blanks. -/
def text (leading : Blanks) (e : Infix chained rank) : String :=
  String.ofList (leading.chars ++ e.render)

/-- The place of what stands behind a one-character token at the given place. -/
def behind (position : Nat) (gap : Blanks) : Nat :=
  position + 1 + gap.chars.length

/-- The tokens of an expression at the given place, with `sign` for every minus sign in front of
its operand. -/
def tokens (sign : Operator) : {rank : Rank} → Infix chained rank → Nat → List Token
  | _, operand word _, start => [⟨.operand, word.text, start⟩]
  | _, group gap body _, start =>
    ⟨.opening, String.singleton '(', start⟩ :: body.tokens sign (behind start gap) ++
      [⟨.closing, String.singleton ')', behind start gap + body.width⟩]
  | _, lift _ body, start => body.tokens sign start
  | _, power base gap exponent, start =>
    base.tokens sign start ++ BinaryOperation.power.token (start + base.width) ::
      exponent.tokens sign (behind (start + base.width) gap)
  | _, negation gap body, start =>
    Token.minus sign start :: body.tokens sign (behind start gap)
  | _, binary _ left operation _ gap right, start =>
    left.tokens sign start ++ operation.token (start + left.width) ::
      right.tokens sign (behind (start + left.width) gap)

/-- The operator tree of an expression at the given place: parentheses and blanks are gone, and
variables have their values. -/
def tree (source : Variables α) : {rank : Rank} → Infix chained rank → Nat → OperatorTree α
  | _, operand word _, start => .ofWord source word start
  | _, group gap body _, start => body.tree source (behind start gap)
  | _, lift _ body, start => body.tree source start
  | _, power base gap exponent, start =>
    .binary .power (.ofOperation .power (start + base.width)) (base.tree source start)
      (exponent.tree source (behind (start + base.width) gap))
  | _, negation gap body, start =>
    .negation (.minus start) (body.tree source (behind start gap))
  | _, binary _ left operation _ gap right, start =>
    .binary operation (.ofOperation operation (start + left.width)) (left.tree source start)
      (right.tree source (behind (start + left.width) gap))

end Infix

end Calculator
