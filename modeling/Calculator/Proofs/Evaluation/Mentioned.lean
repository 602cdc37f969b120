import Calculator.Proofs.Containers
import Calculator.Proofs.Evaluation.Operands
import Calculator.Proofs.Token.Factored

/-!
# Variables that are mentioned

An evaluation asks its source for the operands of the expression and for nothing else. So a name
that cannot be an operand plays no part in any evaluation, and it does not matter which container
holds the variables as long as it gives the same values.
-/

namespace Calculator

variable {kind : NumberKind} {options : Options} {source other : Variables kind.Value}
  {expression : String}

/-- Two sources in which the operands of an expression have the same values give the expression the
same value, or the same failure. -/
theorem evaluate_congr
    (hsame : ∀ token ∈ Expression.tokens options expression, token.kind = .operand →
      source token.text = other token.text) :
    evaluate kind options source expression = evaluate kind options other expression := by
  cases hliteral : kind.arithmetic.literal? expression with
  | some x => rw [evaluate_literal hliteral, evaluate_literal hliteral]
  | none =>
    rw [evaluate_eq_stages hliteral, evaluate_eq_stages hliteral, result_evaluateStages_congr hsame]

/-- The text of an operand of an expression is one that operands can have. -/
theorem isOperandText_of_mem_tokens {token : Token}
    (hmem : token ∈ Expression.tokens options expression) (hkind : token.kind = .operand) :
    Token.IsOperandText token.text := by
  have hwritten := Scanner.isWritten_of_mem_tokens _ token hmem
  simpa only [Token.IsWritten, hkind] using hwritten

/-- Only the variables that an expression mentions matter. Sources that agree on its operands give
the same outcome, so that a name that no operand can have plays no part, and for a literal no name
does. A list of pairs gives the same outcome as a map of any kind that is filled from the end of the
list; a bounded map has room for the list if it may have as many keys as the list has names. -/
theorem evaluate_mentioned (kind : NumberKind) (options : Options) (expression : String) :
    (∀ source other : Variables kind.Value,
      (∀ token ∈ Expression.tokens options expression, token.kind = .operand →
        source token.text = other token.text) →
      evaluate kind options source expression = evaluate kind options other expression) ∧
    (∀ source other : Variables kind.Value,
      (∀ name, Token.IsOperandText name → source name = other name) →
      evaluate kind options source expression = evaluate kind options other expression) ∧
    (∀ x, kind.arithmetic.literal? expression = some x →
      ∀ source, evaluate kind options source expression = .ok x) ∧
    ∀ pairs : List (String × kind.Value),
      let outcome := evaluate kind options (.ofList pairs) expression
      evaluate kind options (.ofHashMap (Std.HashMap.ofList pairs.reverse)) expression = outcome ∧
      evaluate kind options (.ofTreeMap (Std.TreeMap.ofList pairs.reverse)) expression = outcome ∧
      ∀ capacity, (pairs.map Prod.fst).toFinset.card ≤ capacity ↔
        ∃ map : BoundedMap kind.Value capacity, BoundedMap.ofList? pairs.reverse = some map ∧
          evaluate kind options (.ofBoundedMap map) expression = outcome := by
  refine ⟨fun _ _ hsame => evaluate_congr hsame, fun _ _ hsame => ?_,
    fun x hliteral source => evaluate_literal hliteral, fun pairs => ?_⟩
  · exact evaluate_congr fun token hmem hkind => hsame _ (isOperandText_of_mem_tokens hmem hkind)
  · simp only [Variables.ofHashMap_ofList, Variables.ofTreeMap_ofList, true_and]
    intro capacity
    have hroom := @BoundedMap.isSome_ofList?_iff _ capacity pairs.reverse
    rw [List.map_reverse, List.toFinset_reverse, Option.isSome_iff_exists] at hroom
    rw [← hroom]
    exact exists_congr fun map =>
      ⟨fun hmap => ⟨hmap, by rw [Variables.ofBoundedMap_ofList? hmap]⟩, And.left⟩

/-- Of two values of `x` the first one counts, as it does in maps that are filled from the end of
the list; the name `x y` plays no part. -/
theorem evaluate_mentioned_product :
    let pairs : List (String × NumberKind.int32.Value) :=
      [("x", (5#32 : BitVec 32)), ("x y", (9#32 : BitVec 32)), ("x", (7#32 : BitVec 32))]
    let value : NumberKind.int32.Value := (10#32 : BitVec 32)
    evaluate .int32 {} (.ofList [("x", (5#32 : BitVec 32))]) "x * 2" = .ok value ∧
      evaluate .int32 {} (.ofHashMap (Std.HashMap.ofList pairs.reverse)) "x * 2" = .ok value ∧
      evaluate .int32 {} (.ofTreeMap (Std.TreeMap.ofList pairs.reverse)) "x * 2" = .ok value ∧
      ∃ map : BoundedMap NumberKind.int32.Value 2, BoundedMap.ofList? pairs.reverse = some map ∧
        evaluate .int32 {} (.ofBoundedMap map) "x * 2" = .ok value := by
  intro pairs value
  obtain ⟨-, hnames, -, hcontainers⟩ := evaluate_mentioned .int32 {} "x * 2"
  obtain ⟨hhash, htree, hbounded⟩ := hcontainers pairs
  have hone : evaluate .int32 {} (.ofList [("x", (5#32 : BitVec 32))]) "x * 2" = .ok value := by
    decide +kernel
  have hblank : ¬Token.IsOperandText "x y" := fun htext =>
    absurd (htext.2 ' ' (by decide)).1 (by decide)
  have hpairs : evaluate .int32 {} (.ofList pairs) "x * 2" = .ok value := by
    rw [← hone]
    refine hnames _ _ fun name hname => ?_
    have hne : name ≠ "x y" := fun hsame => hblank (hsame ▸ hname)
    simp only [pairs, Variables.ofList_cons, hne, if_false]
    split <;> rfl
  obtain ⟨map, hmap, hvalue⟩ := (hbounded 2).mp (by decide)
  exact ⟨hone, hhash.trans hpairs, htree.trans hpairs, map, hmap, hvalue.trans hpairs⟩

end Calculator
