import Calculator.Postfix
import Calculator.Proofs.Outcome
import Calculator.Proofs.Spans

/-!
# Steps of the conversion to postfix form

What the conversion does with the next token, by its kind: an operand is put out, an opening
parenthesis becomes pending, a closing one releases the group that it closes, and an operator
releases the pending operators that block it.
-/

namespace Calculator.Postfix

variable {strict : Bool} {pending rest : List Token}

/-- Behind the last token everything that is pending is released. -/
theorem arrange_nil (strict : Bool) (pending : List Token) :
    arrange strict pending [] = release strict pending := by
  rw [arrange]

/-- An operand is put out at once. -/
theorem arrange_operand {token : Token} (hkind : token.kind = .operand) :
    arrange strict pending (token :: rest) = (token :: ·) <$> arrange strict pending rest := by
  rw [arrange]
  simp only [hkind]

/-- An opening parenthesis becomes pending. -/
theorem arrange_opening {token : Token} (hkind : token.kind = .opening) :
    arrange strict pending (token :: rest) = arrange strict (token :: pending) rest := by
  rw [arrange]
  simp only [hkind]

/-- A closing parenthesis releases what is pending in its group. -/
theorem arrange_closing {token opening : Token} {group below : List Token}
    (hkind : token.kind = .closing) (hgroup : ∀ top ∈ group, top.isOpening = false)
    (hopening : opening.isOpening = true) :
    arrange strict (group ++ opening :: below) (token :: rest) =
      (group ++ ·) <$> arrange strict below rest := by
  have hinside : ∀ top ∈ group, (!top.isOpening) = true := by simpa using hgroup
  have houtside : ∀ top ∈ (opening :: below).head?, (!top.isOpening) = false := by
    simpa using hopening
  rw [arrange]
  simp only [hkind, takeWhile_span hinside houtside, dropWhile_span hinside houtside]

/-- A closing parenthesis without a partner releases everything or is an error. -/
theorem arrange_stray {token : Token} (hkind : token.kind = .closing)
    (hpending : ∀ top ∈ pending, top.isOpening = false) :
    arrange strict pending (token :: rest) =
      if strict then .error (.strayParenthesis token.position ')')
      else (pending ++ ·) <$> arrange strict [] rest := by
  have hinside : ∀ top ∈ pending, (!top.isOpening) = true := by simpa using hpending
  have hend : ∀ top ∈ ([] : List Token).head?, (!top.isOpening) = false := by simp
  have htake := takeWhile_span hinside hend
  have hdrop := dropWhile_span hinside hend
  rw [List.append_nil] at htake hdrop
  rw [arrange]
  simp only [hkind, htake, hdrop]

/-- No opening parenthesis is pending, or one is with a group above it that has none. -/
theorem isOpening_cases (pending : List Token) :
    (∀ top ∈ pending, top.isOpening = false) ∨
      ∃ group partner below, pending = group ++ partner :: below ∧
        (∀ top ∈ group, top.isOpening = false) ∧ partner.isOpening = true := by
  obtain ⟨group, below, rfl, hgroup, hbelow⟩ := exists_span (fun top => !top.isOpening) pending
  replace hgroup : ∀ top ∈ group, top.isOpening = false := by simpa using hgroup
  cases below with
  | nil => exact .inl (by simpa using hgroup)
  | cons partner below => exact .inr ⟨group, partner, below, rfl, hgroup, by simpa using hbelow⟩

/-- An operator releases the operators that block it and becomes pending. -/
theorem arrange_operator {token : Token} {op : Operator} {blocking below : List Token}
    (hkind : token.kind = .operator op) (hblocking : ∀ top ∈ blocking, isBlockedBy op top = true)
    (hbelow : ∀ top ∈ below.head?, isBlockedBy op top = false) :
    arrange strict (blocking ++ below) (token :: rest) =
      (blocking ++ ·) <$> arrange strict (token :: below) rest := by
  rw [arrange]
  simp only [hkind, takeWhile_span hblocking hbelow, dropWhile_span hblocking hbelow]

/-- Pending operators are released at the end in the order in which they are taken. -/
theorem release_operators (hpending : ∀ top ∈ pending, top.isOpening = false) :
    release strict pending = .ok pending := by
  have hfind : pending.find? (·.isOpening) = none := by
    simpa [List.find?_eq_none] using hpending
  cases strict <;> simp [release, hfind]

/-- What a conversion that succeeds does, token by token, with what is pending, the tokens that are
left and the postfix form of both. -/
inductive Arranges (strict : Bool) : List Token → List Token → List Token → Prop
  | done {pending : List Token}
      (hpending : strict = true → ∀ top ∈ pending, top.isOpening = false) :
      Arranges strict pending [] pending
  | operand {pending rest form : List Token} {token : Token} (hkind : token.kind = .operand)
      (hrest : Arranges strict pending rest form) :
      Arranges strict pending (token :: rest) (token :: form)
  | opening {pending rest form : List Token} {token : Token} (hkind : token.kind = .opening)
      (hrest : Arranges strict (token :: pending) rest form) :
      Arranges strict pending (token :: rest) form
  | closing {group below rest form : List Token} {token partner : Token}
      (hkind : token.kind = .closing) (hgroup : ∀ top ∈ group, top.isOpening = false)
      (hpartner : partner.isOpening = true) (hrest : Arranges strict below rest form) :
      Arranges strict (group ++ partner :: below) (token :: rest) (group ++ form)
  | stray {pending rest form : List Token} {token : Token} (hkind : token.kind = .closing)
      (hstrict : strict = false) (hpending : ∀ top ∈ pending, top.isOpening = false)
      (hrest : Arranges strict [] rest form) :
      Arranges strict pending (token :: rest) (pending ++ form)
  | operator {blocking below rest form : List Token} {token : Token} {op : Operator}
      (hkind : token.kind = .operator op)
      (hblocking : ∀ top ∈ blocking, isBlockedBy op top = true)
      (hbelow : ∀ top ∈ below.head?, isBlockedBy op top = false)
      (hrest : Arranges strict (token :: below) rest form) :
      Arranges strict (blocking ++ below) (token :: rest) (blocking ++ form)

/-- What is released at the end is what is pending. -/
theorem release_eq_ok {form : List Token} (hrelease : release strict pending = .ok form) :
    form = pending ∧ (strict = true → ∀ top ∈ pending, top.isOpening = false) := by
  cases strict with
  | false => exact ⟨by simpa [release, eq_comm] using hrelease, nofun⟩
  | true =>
    cases hfind : pending.find? (·.isOpening) with
    | some opening => simp [release, hfind] at hrelease
    | none =>
      refine ⟨by simpa [release, hfind, eq_comm] using hrelease, fun _ => ?_⟩
      simpa [List.find?_eq_none] using hfind

/-- A conversion that succeeds takes only these steps. -/
theorem arranges_of_arrange {tokens form : List Token}
    (harrange : arrange strict pending tokens = .ok form) :
    Arranges strict pending tokens form := by
  induction tokens generalizing pending form with
  | nil =>
    rw [arrange_nil] at harrange
    obtain ⟨rfl, hpending⟩ := release_eq_ok harrange
    exact .done hpending
  | cons token rest ih =>
    cases hkind : token.kind with
    | operand =>
      rw [arrange_operand hkind, map_eq_ok_iff] at harrange
      obtain ⟨later, hlater, rfl⟩ := harrange
      exact .operand hkind (ih hlater)
    | opening =>
      rw [arrange_opening hkind] at harrange
      exact .opening hkind (ih harrange)
    | closing =>
      rcases isOpening_cases pending with
        hnone | ⟨group, partner, below, rfl, hgroup, hpartner⟩
      · rw [arrange_stray hkind hnone] at harrange
        cases strict with
        | true => cases harrange
        | false =>
          simp only [Bool.false_eq_true, if_false, map_eq_ok_iff] at harrange
          obtain ⟨later, hlater, rfl⟩ := harrange
          exact .stray hkind rfl hnone (ih hlater)
      · rw [arrange_closing hkind hgroup hpartner, map_eq_ok_iff] at harrange
        obtain ⟨later, hlater, rfl⟩ := harrange
        exact .closing hkind hgroup hpartner (ih hlater)
    | operator op =>
      obtain ⟨blocking, below, rfl, hblocking, hbelow⟩ := exists_span (isBlockedBy op) pending
      rw [arrange_operator hkind hblocking hbelow, map_eq_ok_iff] at harrange
      obtain ⟨later, hlater, rfl⟩ := harrange
      exact .operator hkind hblocking hbelow (ih hlater)

end Calculator.Postfix
