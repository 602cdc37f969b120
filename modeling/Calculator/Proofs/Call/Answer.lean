import Calculator.Proofs.Call.Message
import Calculator.Proofs.Token.Trimming

/-!
# Answers to calls

A call whose inputs are readable is an evaluation of the text with the variables that it hands over,
and its answer tells the outcome. If they are not readable, or if there is no place for a result,
the code of the answer is negative. What is written is zero whenever the code is not, and the
message fits in its room and has no zero byte.
-/

namespace Calculator

/-- What a status says of an evaluation that failed. -/
structure Status.Reports (status : Status) (failure : Failure) : Prop where
  code : status.code = failure.code ∧ 0 < status.code
  position : ∀ position, failure.position? = some position → position ≤ 2147483647 →
    status.position = position
  noPosition : (∀ position, failure.position? = some position → 2147483647 < position) →
    status.position = -1
  message : status.message =
    failure.message.toUTF8.toList.take (min 127 failure.message.toUTF8.toList.length)

/-- The code of a failure is positive. -/
theorem Failure.code_pos (failure : Failure) : 0 < failure.code := by
  cases failure <;> exact Nat.succ_pos _

/-- The status of a failure reports it. -/
theorem Status.reports_ofFailure (failure : Failure) : (ofFailure failure).Reports failure where
  code := ⟨rfl, Int.natCast_pos.mpr failure.code_pos⟩
  position position hposition hsmall := by
    have hroom : position ≤ maxPosition := hsmall
    simp only [ofFailure, hposition, if_pos hroom]
  noPosition hlarge := by
    cases hposition : failure.position? with
    | none => simp only [ofFailure, hposition]
    | some position =>
      have hroom : ¬position ≤ maxPosition := by
        have := hlarge position hposition
        rw [maxPosition]
        omega
      simp only [ofFailure, hposition, if_neg hroom]
  message := List.take_eq_take_min

/-- The code of a fault is negative. -/
theorem InputFault.code_neg (fault : InputFault) : fault.code < 0 := by
  cases fault <;> decide

namespace Call

variable {kind : NumberKind} {call : Call kind} {pairs : List (String × kind.Value)}
  {text : String}

/-- Whether the arrays of a call that are not missing hold as many elements as the call says. -/
def IsFilled (call : Call kind) : Prop :=
  (∀ names, call.names = some names → call.count ≤ names.length) ∧
    ∀ values, call.values = some values → call.count ≤ values.length

/-- The variables of a call are these pairs: each name is the text of its byte string, and each
value stands at the same place as its name. Arrays are not needed if there is no variable. -/
inductive GivesVariables (call : Call kind) : List (String × kind.Value) → Prop
  | none (hcount : call.count = 0) : GivesVariables call []
  | arrays {names : List (Option ByteString)} {values : List kind.Value}
      {pairs : List (String × kind.Value)}
      (hnames : call.names = some names) (hvalues : call.values = some values)
      (htexts : List.Forall₂ (fun name pair => ∃ bytes : ByteString, name = some bytes ∧
        bytes.Encodes pair.1) (names.take call.count) pairs)
      (hpairs : pairs.map Prod.snd = values.take call.count) :
      GivesVariables call pairs

/-- The inputs of a call are readable, and this is what they say: no byte string that is needed is
missing, and all of them are texts. -/
structure Reads (call : Call kind) (pairs : List (String × kind.Value)) (text : String) : Prop where
  given : call.GivesVariables pairs
  expression : ∃ bytes, call.expression = some bytes ∧ bytes.Encodes text

/-- A byte string has a text if it is not missing and encodes the text. -/
theorem readText_eq_ok_iff {missing : InputFault} {input : Option ByteString} {text : String} :
    readText missing input = .ok text ↔ ∃ bytes, input = some bytes ∧ bytes.Encodes text := by
  cases input with
  | none => simp [readText]
  | some bytes =>
    simp only [readText, Option.some.injEq, exists_eq_left', ← ByteString.decode?_eq_some_iff]
    cases bytes.decode? <;> simp

/-- Names and values are read place by place. -/
theorem forall₂_zip_iff {names : List (Option ByteString)} {values : List kind.Value}
    (hlength : names.length = values.length) :
    List.Forall₂ (fun entry pair =>
        (readText .missingName entry.1).map (·, entry.2) = .ok pair) (names.zip values) pairs ↔
      List.Forall₂ (fun name pair => ∃ bytes : ByteString, name = some bytes ∧
        bytes.Encodes pair.1) names pairs ∧ pairs.map Prod.snd = values := by
  have hentry (name : Option ByteString) (value : kind.Value) (pair : String × kind.Value) :
      (readText .missingName name).map (·, value) = .ok pair ↔
        (∃ bytes : ByteString, name = some bytes ∧ bytes.Encodes pair.1) ∧ pair.2 = value := by
    rw [← @readText_eq_ok_iff .missingName]
    cases readText .missingName name <;> simp [Except.map, Prod.ext_iff, eq_comm]
  induction names generalizing values pairs with
  | nil =>
    obtain rfl := List.length_eq_zero_iff.mp hlength.symm
    simp only [List.zip_nil_left, List.forall₂_nil_left_iff]
    exact ⟨fun hnil => ⟨hnil, by rw [hnil]; rfl⟩, fun ⟨hnil, _⟩ => hnil⟩
  | cons name names ih =>
    obtain ⟨value, values, rfl⟩ := List.exists_cons_of_length_eq_add_one hlength.symm
    cases pairs with
    | nil => simp
    | cons pair pairs =>
      have hrest := @ih pairs values (Nat.succ.inj hlength)
      rw [List.zip_cons_cons, List.forall₂_cons, List.forall₂_cons, List.map_cons, List.cons.injEq]
      exact (and_congr (hentry name value pair) hrest).trans and_and_and_comm

/-- Reading the variables gives the pairs that they are. -/
theorem readVariables_eq_ok_iff (hfilled : call.IsFilled) :
    call.readVariables = .ok pairs ↔ call.GivesVariables pairs := by
  obtain ⟨hnames, hvalues⟩ := hfilled
  rw [readVariables]
  split
  · rename_i hcount
    constructor
    · rintro ⟨⟩
      exact .none hcount
    · rintro (_ | ⟨-, -, htexts, -⟩)
      · rfl
      · rw [hcount, List.take_zero, List.forall₂_nil_left_iff] at htexts
        rw [htexts]
  · rename_i hcount
    split
    · rename_i names values hsome hsome'
      have hlength : (names.take call.count).length = (values.take call.count).length := by
        rw [List.length_take_of_le (hnames _ hsome), List.length_take_of_le (hvalues _ hsome')]
      rw [List.zip, List.take_zipWith, ← List.zip, mapM_eq_ok_iff, forall₂_zip_iff hlength]
      constructor
      · rintro ⟨htexts, hpairs⟩
        exact .arrays hsome hsome' htexts hpairs
      · rintro (hnone | ⟨hgiven, hgiven', htexts, hpairs⟩)
        · exact absurd hnone hcount
        · cases hsome.symm.trans hgiven
          cases hsome'.symm.trans hgiven'
          exact ⟨htexts, hpairs⟩
    · rename_i hmissing
      constructor
      · exact nofun
      · rintro (hnone | ⟨hgiven, hgiven', -, -⟩)
        · exact absurd hnone hcount
        · exact absurd hgiven' (hmissing _ _ hgiven)

/-- If there is a place for the result, reading a call gives what its inputs say. -/
theorem read_eq_ok_iff (hfilled : call.IsFilled) :
    call.read = .ok (pairs, text) ↔ call.hasOutput = true ∧ call.Reads pairs text := by
  have hread : call.read = call.readVariables >>= fun pairs =>
      if call.hasOutput then (readText .missingExpression call.expression).map (pairs, ·)
      else .error .missingOutput := by
    unfold read
    cases call.readVariables with
    | error fault => rfl
    | ok pairs =>
      cases call.hasOutput <;> cases readText .missingExpression call.expression <;> rfl
  rw [hread, bind_eq_ok_iff]
  constructor
  · rintro ⟨given, hgiven, hrest⟩
    split at hrest
    · rename_i hplace
      cases htext : readText .missingExpression call.expression with
      | error fault =>
        rw [htext] at hrest
        cases hrest
      | ok found =>
        rw [htext] at hrest
        cases hrest
        exact ⟨hplace, (readVariables_eq_ok_iff hfilled).mp hgiven, readText_eq_ok_iff.mp htext⟩
    · cases hrest
  · rintro ⟨hplace, hgiven, hexpression⟩
    refine ⟨pairs, (readVariables_eq_ok_iff hfilled).mpr hgiven, ?_⟩
    rw [if_pos hplace, (@readText_eq_ok_iff .missingExpression _ _).mpr hexpression]
    rfl

section Answers

variable (hfilled : call.IsFilled)
include hfilled

/-- A call that is read and has a value writes it. -/
theorem run_of_value (hplace : call.hasOutput = true) (hreads : call.Reads pairs text)
    {x : kind.Value} (hvalue : evaluate kind {} (Variables.ofList pairs) text = .ok x) :
    call.run = (.success, some x) := by
  have hanswer : call.answer = (.success, x) := by
    simp only [answer, (read_eq_ok_iff hfilled).mpr ⟨hplace, hreads⟩, hvalue]
  rw [run, hanswer, hplace]
  rfl

/-- A call that is read and fails writes zero and tells the failure. -/
theorem run_of_failure (hplace : call.hasOutput = true) (hreads : call.Reads pairs text)
    {failure : Failure}
    (hfailure : evaluate kind {} (Variables.ofList pairs) text = .error failure) :
    call.run = (.ofFailure failure, some kind.arithmetic.zero) := by
  have hanswer : call.answer = (.ofFailure failure, kind.arithmetic.zero) := by
    simp only [answer, (read_eq_ok_iff hfilled).mpr ⟨hplace, hreads⟩, hfailure]
  rw [run, hanswer, hplace]
  rfl

/-- A call that is not read tells a fault, and it writes zero if there is a place for it. -/
theorem run_of_not_reads
    (hnot : ¬(call.hasOutput = true ∧ ∃ pairs text, call.Reads pairs text)) :
    ∃ fault : InputFault, call.run =
      (.ofFault fault, if call.hasOutput then some kind.arithmetic.zero else none) := by
  cases hread : call.read with
  | ok inputs =>
    obtain ⟨hplace, hreads⟩ := (read_eq_ok_iff hfilled).mp hread
    exact absurd ⟨hplace, _, _, hreads⟩ hnot
  | error fault => exact ⟨fault, by rw [run, answer, hread]⟩

/-- A call with a place for the result writes a value, or zero for a failure or a fault. -/
theorem run_cases (hplace : call.hasOutput = true) :
    (∃ pairs text x, call.Reads pairs text ∧
      evaluate kind {} (Variables.ofList pairs) text = .ok x ∧
      call.run = (.success, some x)) ∨
    (∃ pairs text failure, call.Reads pairs text ∧
      evaluate kind {} (Variables.ofList pairs) text = .error failure ∧
      call.run = (.ofFailure failure, some kind.arithmetic.zero)) ∨
    ((¬∃ pairs text, call.Reads pairs text) ∧
      ∃ fault : InputFault, call.run = (.ofFault fault, some kind.arithmetic.zero)) := by
  by_cases hreadable : ∃ pairs text, call.Reads pairs text
  · obtain ⟨pairs, text, hreads⟩ := hreadable
    cases houtcome : evaluate kind {} (Variables.ofList pairs) text with
    | ok x =>
      exact .inl ⟨pairs, text, x, hreads, houtcome, run_of_value hfilled hplace hreads houtcome⟩
    | error failure =>
      exact .inr (.inl ⟨pairs, text, failure, hreads, houtcome,
        run_of_failure hfilled hplace hreads houtcome⟩)
  · obtain ⟨fault, hrun⟩ := run_of_not_reads hfilled (mt And.right hreadable)
    rw [hplace] at hrun
    exact .inr (.inr ⟨hreadable, fault, hrun⟩)

/-- A call without a place for the result writes nothing and tells a fault. -/
theorem run_of_missing (hplace : call.hasOutput = false) :
    ∃ fault : InputFault, call.run = (.ofFault fault, none) := by
  obtain ⟨fault, hrun⟩ := run_of_not_reads hfilled (by simp [hplace])
  rw [hplace] at hrun
  exact ⟨fault, hrun⟩

/-- The message of an answer is the beginning of a text without the zero character. -/
theorem exists_message :
    ∃ text, '\x00' ∉ text.toList ∧ call.run.1.message = Status.messageOf text := by
  have hfault (fault : InputFault) : '\x00' ∉ fault.message.toList := by
    cases fault <;> decide
  cases hplace : call.hasOutput with
  | false =>
    obtain ⟨fault, hrun⟩ := run_of_missing hfilled hplace
    exact ⟨fault.message, hfault fault, by rw [hrun]; rfl⟩
  | true =>
    rcases run_cases hfilled hplace with ⟨pairs, text, x, -, -, hrun⟩ |
      ⟨pairs, text, failure, hreads, houtcome, hrun⟩ | ⟨-, fault, hrun⟩
    · exact ⟨"", List.not_mem_nil, by rw [hrun, Status.messageOf, Text.toList_toUTF8]; rfl⟩
    · obtain ⟨bytes, -, hencodes⟩ := hreads.expression
      have hpoints := pointsAtCause_of_evaluate houtcome
      exact ⟨failure.message, hpoints.zero_not_mem_message fun hzero =>
        hencodes.zero_not_mem (Expression.mem_of_mem_trimmed hzero), by rw [hrun]; rfl⟩
    · exact ⟨fault.message, hfault fault, by rw [hrun]; rfl⟩

/-- The message of an answer fits in its room and has no zero byte. -/
theorem message_fits : 0 ∉ call.run.1.message ∧ call.run.1.message.length ≤ 127 := by
  obtain ⟨text, htext, hmessage⟩ := exists_message hfilled
  rw [hmessage]
  exact ⟨fun hzero => Text.zero_not_mem_toUTF8 htext (List.mem_of_mem_take hzero),
    List.length_take_le _ _⟩

end Answers

/-- A call refines an evaluation. With a place for the result, the value is written, with a status
that tells nothing else, exactly if the inputs are readable and the evaluation of the text with the
variables has this value; otherwise zero is written and the code is not zero. The status of readable
inputs reports the failure, and that of others has a negative code, as it has without a place for
the result, where nothing is written. The message fits in its room and has no zero byte. -/
theorem run_refines (call : Call kind) (hfilled : call.IsFilled) :
    (call.hasOutput = true →
      (∀ x, call.run = (⟨0, -1, []⟩, some x) ↔ ∃ pairs text, call.Reads pairs text ∧
        evaluate kind {} (Variables.ofList pairs) text = .ok x) ∧
      ((¬∃ pairs text x, call.Reads pairs text ∧
          evaluate kind {} (Variables.ofList pairs) text = .ok x) →
        call.run.2 = some kind.arithmetic.zero ∧ call.run.1.code ≠ 0) ∧
      (∀ pairs text failure, call.Reads pairs text →
        evaluate kind {} (Variables.ofList pairs) text = .error failure →
        call.run.1.Reports failure) ∧
      ((¬∃ pairs text, call.Reads pairs text) → call.run.1.code < 0)) ∧
    (call.hasOutput = false → call.run.2 = none ∧ call.run.1.code < 0) ∧
    0 ∉ call.run.1.message ∧ call.run.1.message.length ≤ 127 := by
  refine ⟨fun hplace => ⟨fun x => ⟨fun hrun => ?_, ?_⟩, fun hnone => ?_, ?_, fun hnot => ?_⟩,
    fun hplace => ?_, message_fits hfilled⟩
  · have hcode : call.run.1.code = 0 := by rw [hrun]
    rcases run_cases hfilled hplace with ⟨pairs, text, y, hreads, hvalue, hrun'⟩ |
      ⟨pairs, text, failure, -, -, hrun'⟩ | ⟨-, fault, hrun'⟩
    · cases hrun.symm.trans hrun'
      exact ⟨pairs, text, hreads, hvalue⟩
    · rw [hrun'] at hcode
      exact absurd hcode (Int.ne_of_gt (Status.reports_ofFailure failure).code.2)
    · rw [hrun'] at hcode
      exact absurd hcode (Int.ne_of_lt fault.code_neg)
  · rintro ⟨pairs, text, hreads, hvalue⟩
    exact run_of_value hfilled hplace hreads hvalue
  · rcases run_cases hfilled hplace with ⟨pairs, text, y, hreads, hvalue, -⟩ |
      ⟨pairs, text, failure, -, -, hrun⟩ | ⟨-, fault, hrun⟩
    · exact absurd ⟨pairs, text, y, hreads, hvalue⟩ hnone
    · rw [hrun]
      exact ⟨rfl, Int.ne_of_gt (Status.reports_ofFailure failure).code.2⟩
    · rw [hrun]
      exact ⟨rfl, Int.ne_of_lt fault.code_neg⟩
  · intro pairs text failure hreads hfailure
    rw [run_of_failure hfilled hplace hreads hfailure]
    exact Status.reports_ofFailure failure
  · obtain ⟨fault, hrun⟩ := run_of_not_reads hfilled (mt And.right hnot)
    rw [hrun]
    exact fault.code_neg
  · obtain ⟨fault, hrun⟩ := run_of_missing hfilled hplace
    rw [hrun]
    exact ⟨rfl, fault.code_neg⟩

/-- A call of `x / 2` with 5 and 7 for `x`. Behind the zero byte the expression is no text. -/
def halfOfVariable : Call .int32 where
  expression := some [120, 32, 47, 32, 50, 0, 255]
  names := some [some [120], some [120, 0, 121], none]
  values := some [(5#32 : BitVec 32), (7#32 : BitVec 32)]
  count := 2
  hasOutput := true

/-- The first value counts. -/
theorem run_refines_half :
    halfOfVariable.IsFilled ∧ halfOfVariable.run = (⟨0, -1, []⟩, some (2#32 : BitVec 32)) := by
  have hfilled : halfOfVariable.IsFilled := by
    constructor <;> rintro _ ⟨⟩ <;> decide
  have htexts : halfOfVariable.GivesVariables
      [("x", (5#32 : BitVec 32)), ("x", (7#32 : BitVec 32))] :=
    .arrays rfl rfl (.cons ⟨_, rfl, by decide⟩ (.cons ⟨_, rfl, by decide⟩ .nil)) rfl
  have hreads : halfOfVariable.Reads _ "x / 2" := ⟨htexts, _, rfl, by decide⟩
  have hvalue : evaluate .int32 {} (Variables.ofList
      [("x", (5#32 : BitVec 32)), ("x", (7#32 : BitVec 32))]) "x / 2" = .ok (2#32 : BitVec 32) := by
    decide +kernel
  exact ⟨hfilled, (((run_refines halfOfVariable hfilled).1 rfl).1 _).mpr ⟨_, _, hreads, hvalue⟩⟩

end Call

end Calculator
