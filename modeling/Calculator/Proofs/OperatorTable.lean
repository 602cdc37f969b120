import Calculator.CharRoles
import Calculator.Number.Arithmetic

/-!
# The operator table

Every symbol has one operator in the table, and every operation has one symbol. The binary
operations are exactly what can be written; negation has an operator that cannot be written.
-/

namespace Calculator

namespace Operator

/-- A symbol stands for the operator of the table that has it. -/
theorem ofSymbol?_eq_some_iff {symbol : Char} {op : Operator} :
    ofSymbol? symbol = some op ↔ op ∈ table ∧ op.symbol = symbol := by
  constructor
  · intro hfind
    exact ⟨List.mem_of_find?_eq_some hfind, by simpa using List.find?_some hfind⟩
  · rintro ⟨hmem, rfl⟩
    have hunique : ∀ op ∈ table, ofSymbol? op.symbol = some op := by decide
    exact hunique op hmem

/-- Only the binary operators of the table can be written. -/
theorem written?_eq_some_iff {symbol : Char} {op : Operator} :
    written? symbol = some op ↔ op ∈ table ∧ op.arity = 2 ∧ op.symbol = symbol := by
  simp only [written?, Option.filter_eq_some_iff, ofSymbol?_eq_some_iff, beq_iff_eq]
  exact ⟨fun ⟨⟨hmem, hsymbol⟩, harity⟩ => ⟨hmem, harity, hsymbol⟩,
    fun ⟨hmem, harity, hsymbol⟩ => ⟨⟨hmem, hsymbol⟩, harity⟩⟩

end Operator

namespace BinaryOperation

/-- The operator of the table that a binary operation is written with. -/
def operator : BinaryOperation → Operator
  | add => ⟨'+', 2, 2, .left⟩
  | subtract => ⟨'-', 2, 2, .left⟩
  | multiply => ⟨'*', 3, 2, .left⟩
  | divide => ⟨'/', 3, 2, .left⟩
  | modulo => ⟨'%', 3, 2, .left⟩
  | power => ⟨'^', 4, 2, .right⟩

/-- The symbol of a binary operation can be written and stands for its operator. -/
@[simp] theorem written?_operator (operation : BinaryOperation) :
    Operator.written? operation.operator.symbol = some operation.operator := by
  cases operation <;> rfl

/-- The operator of a binary operation has this operation. -/
@[simp] theorem ofSymbol?_operator (operation : BinaryOperation) :
    Operation.ofSymbol? operation.operator.symbol = some (.binary operation) := by
  cases operation <;> rfl

end BinaryOperation

/-- The table has negation and the operators of the binary operations. -/
theorem Operator.mem_table_iff {op : Operator} :
    op ∈ table ↔ op = negation ∨ ∃ operation : BinaryOperation, op = operation.operator := by
  constructor
  · intro hmem
    have hall : ∀ op ∈ table, op = negation ∨ op ∈ [BinaryOperation.add, .subtract, .multiply,
        .divide, .modulo, .power].map BinaryOperation.operator := by decide
    refine (hall op hmem).imp_right fun hbinary => ?_
    obtain ⟨operation, -, rfl⟩ := List.mem_map.mp hbinary
    exact ⟨operation, rfl⟩
  · rintro (rfl | ⟨operation, rfl⟩)
    · decide
    · cases operation <;> decide

/-- An operator of the table that has a binary operation is the one that this operation is written
with. -/
theorem Operator.eq_operator_of_mem_table {op : Operator} {operation : BinaryOperation}
    (hmem : op ∈ table) (hmeans : Operation.ofSymbol? op.symbol = some (.binary operation)) :
    op = operation.operator := by
  rcases mem_table_iff.mp hmem with rfl | ⟨written, rfl⟩
  · cases hmeans
  · rw [BinaryOperation.ofSymbol?_operator] at hmeans
    cases hmeans
    rfl

end Calculator
