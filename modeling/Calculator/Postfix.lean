import Calculator.Failure
import Calculator.Expression
import Calculator.Token.Negation

/-!
# Postfix form

In postfix form every operator stands behind its operands and parentheses are gone. Conversion
keeps a stack of pending operators and opening parentheses. Without strictness a closing
parenthesis without partner only releases what is pending, and an opening one stays in the
postfix form, where evaluation refuses it.
-/

namespace Calculator.Postfix

/-- Whether the pending token `top` is an operator that binds before `op` does. -/
def isBlockedBy (op : Operator) (top : Token) : Bool :=
  match top.operator? with
  | some pending => op.waitsFor pending
  | none => false

/-- What is pending at the end of the expression, in the order in which it is released. -/
def release (strict : Bool) (pending : List Token) : Except Failure (List Token) :=
  match if strict then pending.find? (·.isOpening) else none with
  | some opening => .error (.strayParenthesis opening.position '(')
  | none => .ok pending

/-- The postfix form of the tokens that are left, behind what is pending, last pushed first. -/
def arrange (strict : Bool) : List Token → List Token → Except Failure (List Token)
  | pending, [] => release strict pending
  | pending, token :: rest =>
    match token.kind with
    | .operand => (token :: ·) <$> arrange strict pending rest
    | .opening => arrange strict (token :: pending) rest
    | .closing =>
      let group := pending.takeWhile (!·.isOpening)
      match pending.dropWhile (!·.isOpening) with
      | _ :: below => (group ++ ·) <$> arrange strict below rest
      | [] =>
        if strict then .error (.strayParenthesis token.position ')')
        else (group ++ ·) <$> arrange strict [] rest
    | .operator op =>
      (pending.takeWhile (isBlockedBy op) ++ ·) <$>
        arrange strict (token :: pending.dropWhile (isBlockedBy op)) rest

/-- The postfix form of tokens whose minus signs are resolved. -/
def ofTokens (options : Options) (tokens : List Token) : Except Failure (List Token) :=
  arrange options.strict [] tokens

end Calculator.Postfix
