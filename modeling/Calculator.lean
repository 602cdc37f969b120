import Calculator.Operator
import Calculator.CharRoles
import Calculator.Text.Blank
import Calculator.Options
import Calculator.Token
import Calculator.Token.Scanner
import Calculator.Failure
import Calculator.Expression
import Calculator.Postfix
import Calculator.Number.Arithmetic
import Calculator.Number.Binary
import Calculator.Number.Decimal
import Calculator.Number.FloatingPoint
import Calculator.Number.Word
import Calculator.BoundedMap
import Calculator.Machine
import Calculator.Number.Kind
import Calculator.Evaluation
import Calculator.Call
import Calculator.Datum
import Calculator.Main
import Calculator.Number.Closeness
import Calculator.Stored
import Calculator.Proofs.Machine.Run
import Calculator.Proofs.Machine.OperatorTree
import Calculator.Proofs.Stages
import Calculator.Proofs.OperatorTable
import Calculator.Proofs.Token.Scanning
import Calculator.Proofs.Token.Trimming
import Calculator.Proofs.Grammar.Infix
import Calculator.Proofs.Grammar.Scanned
import Calculator.Proofs.Grammar.Resolved
import Calculator.Proofs.Postfix.Arrange
import Calculator.Proofs.Grammar.Arranged
import Calculator.Proofs.Grammar.Value
import Calculator.Proofs.Machine.Arity
import Calculator.Proofs.Grammar.Chained
import Calculator.Proofs.Token.Standard
import Calculator.Proofs.Postfix.Conservation
import Calculator.Proofs.Grammar.Derivable
import Calculator.Proofs.Grammar.Accepted
import Calculator.Proofs.Machine.Failing
import Calculator.Proofs.Machine.Image
import Calculator.Proofs.Number.Faults
import Calculator.Proofs.Number.Unbounded
import Calculator.Proofs.Postfix.Partners
import Calculator.Proofs.Postfix.Strictness
import Calculator.Proofs.Postfix.Order
import Calculator.Proofs.Token.Located
import Calculator.Proofs.Number.Literal
import Calculator.Proofs.Evaluation.Parentheses
import Calculator.Proofs.Evaluation.Cause
import Calculator.Proofs.Evaluation.Subtraction
import Calculator.Proofs.Number.Spelling
import Calculator.Proofs.Number.Opposite
import Calculator.Proofs.Evaluation.Literal
import Calculator.Proofs.Evaluation.Prepared
import Calculator.Proofs.Evaluation.Unplaced
import Calculator.Proofs.Evaluation.Blanks
import Calculator.Proofs.Evaluation.Dangling
import Calculator.Proofs.Number.Notation
import Calculator.Proofs.Machine.Covering
import Calculator.Proofs.Number.Widening
import Calculator.Proofs.Evaluation.Kinds
import Calculator.Proofs.Call.Bytes
import Calculator.Proofs.Call.Message
import Calculator.Proofs.Call.Answer
import Calculator.Proofs.Grammar.Inlined
import Calculator.Proofs.Containers
import Calculator.Proofs.Evaluation.Mentioned
import Calculator.Proofs.Postfix.Moved
import Calculator.Proofs.Postfix.Placed
import Calculator.Proofs.Token.Factored
import Calculator.Proofs.Postfix.Unclosed
import Calculator.Proofs.Postfix.Bracketed
import Calculator.Proofs.Postfix.Tolerated
import Calculator.Proofs.Evaluation.Depth
import Calculator.Proofs.Number.Exact
import Calculator.Proofs.Postfix.Rendered
import Calculator.Proofs.Token.Negated
import Calculator.Proofs.Number.Integer
import Calculator.Proofs.Evaluation.Recorded
