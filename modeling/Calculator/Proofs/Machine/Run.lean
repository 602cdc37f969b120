import Calculator.Machine
import Calculator.Proofs.Outcome

/-!
# Runs of the stack machine

A run reads terms from left to right on a stack and may stop at each of them. The value of a
postfix form is the result of a run on the empty stack, so every failure comes either from the
term at which the run stopped or from the stack that is left when all terms are read.
-/

namespace Calculator.Stack

variable {α : Type} {A : Arithmetic α}

/-- The stack after the given terms, read from left to right. -/
def run (A : Arithmetic α) (stack : Stack α) (terms : List (Term α)) :
    Except Failure (Stack α) :=
  terms.foldlM (step A) stack

/-- A run on the empty stack reads `read` and stops with `failure` at `term`. -/
def StopsAt (A : Arithmetic α) (read : List (Term α)) (term : Term α) (failure : Failure) :
    Prop :=
  ∃ stack, run A [] read = .ok stack ∧ step A stack term = .error failure

/-- Without terms the stack stays as it is. -/
@[simp] theorem run_nil (stack : Stack α) : run A stack [] = .ok stack := rfl

/-- A run begins with a step. -/
theorem run_cons (stack : Stack α) (term : Term α) (rest : List (Term α)) :
    run A stack (term :: rest) = step A stack term >>= fun next => run A next rest := by
  simp only [run, List.foldlM_cons]

/-- A run over one list and then another is a run over both. -/
theorem run_append (stack : Stack α) (first second : List (Term α)) :
    run A stack (first ++ second) =
      run A stack first >>= fun next => run A next second := by
  simp only [run, List.foldlM_append]

/-- A run fails exactly if some term is reached and its step fails. -/
theorem run_eq_error_iff {stack : Stack α} {terms : List (Term α)} {failure : Failure} :
    run A stack terms = .error failure ↔
      ∃ read term rest reached, terms = read ++ term :: rest ∧
        run A stack read = .ok reached ∧ step A reached term = .error failure := by
  constructor
  · intro hrun
    induction terms generalizing stack with
    | nil => simp at hrun
    | cons term rest ih =>
      rw [run_cons] at hrun
      cases hstep : step A stack term with
      | error found =>
        have heq : found = failure := by simpa [hstep] using hrun
        exact ⟨[], term, rest, stack, rfl, rfl, by rw [hstep, heq]⟩
      | ok next =>
        have hrest : run A next rest = .error failure := by simpa [hstep] using hrun
        obtain ⟨read, last, after, reached, hsplit, hread, hlast⟩ := ih hrest
        refine ⟨term :: read, last, after, reached, by rw [hsplit]; rfl, ?_, hlast⟩
        rw [run_cons, hstep, ok_bind, hread]
  · rintro ⟨read, term, rest, reached, rfl, hread, hterm⟩
    rw [run_append, hread, ok_bind, run_cons, hterm, error_bind]

/-- Feeding a machine gives the result of a run on its stack. -/
theorem fst_feed (machine : Machine α) (terms : List (Term α)) :
    (machine.feed A terms).1 = run A machine.stack terms >>= result := by
  induction terms generalizing machine with
  | nil =>
    rw [run_nil, ok_bind, Machine.feed]
    cases machine.stack.result <;> rfl
  | cons term rest ih =>
    rw [run_cons, Machine.feed]
    cases hstep : machine.stack.step A term with
    | error failure => rfl
    | ok next => exact ih { machine with stack := next }

/-- The value of a postfix form is the result of a run on the empty stack. -/
theorem evaluateTerms_eq_run (A : Arithmetic α) (terms : List (Term α)) :
    evaluateTerms A terms = run A [] terms >>= result :=
  fst_feed Machine.new.clear terms

/-- There is a value exactly if the run leaves it alone on the stack. -/
theorem evaluateTerms_eq_ok_iff_run {terms : List (Term α)} {x : α} :
    evaluateTerms A terms = .ok x ↔ run A [] terms = .ok [x] := by
  rw [evaluateTerms_eq_run]
  rcases run A [] terms with failure | (_ | ⟨top, _ | ⟨next, below⟩⟩) <;> simp [result]

/-- A run that stops at a term gives its failure, whatever terms follow. -/
theorem StopsAt.evaluateTerms_eq {read : List (Term α)} {term : Term α} {failure : Failure}
    (hstop : StopsAt A read term failure) (rest : List (Term α)) :
    evaluateTerms A (read ++ term :: rest) = .error failure := by
  obtain ⟨reached, hread, hterm⟩ := hstop
  have hrun : run A [] (read ++ term :: rest) = .error failure :=
    run_eq_error_iff.mpr ⟨read, term, rest, reached, rfl, hread, hterm⟩
  rw [evaluateTerms_eq_run, hrun, error_bind]

/-- An evaluation fails at a term or, when all terms are read, with the stack that is left. -/
theorem evaluateTerms_eq_error_iff {terms : List (Term α)} {failure : Failure} :
    evaluateTerms A terms = .error failure ↔
      (∃ read term rest, terms = read ++ term :: rest ∧ StopsAt A read term failure) ∨
        ∃ stack, run A [] terms = .ok stack ∧ result stack = .error failure := by
  constructor
  · intro hfailure
    rw [evaluateTerms_eq_run] at hfailure
    cases hrun : run A [] terms with
    | error found =>
      rw [hrun, error_bind] at hfailure
      cases hfailure
      obtain ⟨read, term, rest, reached, hsplit, hread, hterm⟩ := run_eq_error_iff.mp hrun
      exact .inl ⟨read, term, rest, hsplit, reached, hread, hterm⟩
    | ok stack =>
      rw [hrun, ok_bind] at hfailure
      exact .inr ⟨stack, rfl, hfailure⟩
  · rintro (⟨read, term, rest, rfl, hstop⟩ | ⟨stack, hrun, hresult⟩)
    · exact hstop.evaluateTerms_eq rest
    · rw [evaluateTerms_eq_run, hrun, ok_bind, hresult]

/-- An operator that fails is to blame itself. -/
theorem position?_of_apply {op : Operator} {position : Nat} {stack : Stack α}
    {failure : Failure} (happly : apply A op position stack = .error failure) :
    failure.position? = some position := by
  have hpush {outcome : Except Fault α} {below : Stack α}
      (h : apply.push op position outcome below = .error failure) :
      failure.position? = some position := by
    rcases outcome with (_ | _) | x <;> cases h <;> rfl
  unfold apply at happly
  split at happly
  · cases happly
    rfl
  · split at happly
    · exact hpush happly
    · cases happly
      rfl
  · split at happly
    · exact hpush happly
    · cases happly
      rfl

/-- The token at which a run stops is to blame. -/
theorem position?_of_step {token : Token} {stack : Stack α} {failure : Failure}
    (hstep : step A stack (.token token) = .error failure) :
    failure.position? = some token.position := by
  rcases hkind : token.kind with _ | _ | _ | op <;> simp only [step, hkind] at hstep
  · split at hstep <;> cases hstep
    rfl
  · cases hstep
    rfl
  · cases hstep
    rfl
  · exact position?_of_apply hstep

/-- A run does not stop at a term for want of a value or with values too many: both are found
only when all terms are read. -/
theorem StopsAt.ne_noValue {read : List (Term α)} {term : Term α} {failure : Failure}
    (hstop : StopsAt A read term failure) :
    failure ≠ .noValue ∧ ∀ count, failure ≠ .tooManyValues count := by
  obtain ⟨reached, -, hterm⟩ := hstop
  cases term with
  | value x position => simp [step] at hterm
  | token token =>
    have hposition := position?_of_step hterm
    constructor
    · rintro rfl
      simp [Failure.position?] at hposition
    · rintro count rfl
      simp [Failure.position?] at hposition

end Calculator.Stack

namespace Calculator.Machine

variable {α : Type} (A : Arithmetic α)

/-- What earlier runs left on the stack plays no part in a run. -/
theorem fst_run (machine : Machine α) (terms : List (Term α)) :
    (machine.run A terms).1 = evaluateTerms A terms := by
  rw [run, evaluateTerms, run, Stack.fst_feed, Stack.fst_feed]
  rfl

/-- A machine gives every postfix form its value, whatever it ran before. -/
theorem runAll_eq_map (machine : Machine α) (forms : List (List (Term α))) :
    machine.runAll A forms = forms.map (evaluateTerms A) := by
  induction forms generalizing machine with
  | nil => rfl
  | cons terms rest ih =>
    rw [runAll, List.map_cons, ← fst_run A machine, ← ih (machine.run A terms).2]

end Calculator.Machine
