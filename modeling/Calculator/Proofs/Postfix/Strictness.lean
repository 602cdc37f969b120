import Calculator.Proofs.Postfix.Partners

/-!
# Strict and tolerant conversion

Under strictness the conversion to postfix form fails exactly if a parenthesis has no partner: at
the leftmost closing one or, if every closing one has a partner, at the rightmost opening one. On
balanced tokens strictness plays no part. Without it, an opening parenthesis that is never closed
stays in the postfix form.
-/

namespace Calculator.Postfix

open Token

/-- How a conversion, strict or not, of tokens behind others that were read may end: with one
postfix form for both if all is balanced, and under strictness with a failure if not. -/
inductive Settles (read tokens : List Token) (convert : Bool → Except Failure (List Token)) : Prop
  | balanced {form : List Token} (hbalanced : isBalanced 0 (read ++ tokens) = true)
      (hnone : ¬HasStrayClosing (read ++ tokens)) (hform : ∀ strict, convert strict = .ok form)
  | strayClosing {before after : List Token} {closing : Token}
      (hsplit : tokens = before ++ closing :: after) (hclosing : closing.kind = .closing)
      (hbalanced : isBalanced 0 (read ++ before) = true)
      (hnone : ¬HasStrayClosing (read ++ before))
      (hfailure : convert true = .error (.strayParenthesis closing.position ')'))
  | strayOpening {earlier body : List Token} {opening : Token}
      (hsplit : read ++ tokens = earlier ++ opening :: body) (hopening : opening.kind = .opening)
      (hbody : isBalanced 0 body = true) (hnone : ¬HasStrayClosing (read ++ tokens))
      (hfailure : convert true = .error (.strayParenthesis opening.position '('))

/-- A token that only puts something out in front leaves it to the rest how a conversion ends. -/
theorem Settles.cons {read rest : List Token} {token : Token}
    {convert later : Bool → Except Failure (List Token)} (front : List Token)
    (hconvert : ∀ strict, convert strict = (front ++ ·) <$> later strict)
    (hlater : Settles (read ++ [token]) rest later) : Settles read (token :: rest) convert := by
  have hread (more : List Token) : read ++ [token] ++ more = read ++ token :: more := by simp
  cases hlater with
  | balanced hbalanced hnone hform =>
    rw [hread] at hbalanced hnone
    exact .balanced hbalanced hnone fun strict => by rw [hconvert, hform]; rfl
  | @strayClosing before after closing hsplit hclosing hbalanced hnone hfailure =>
    rw [hread] at hbalanced hnone
    exact .strayClosing (congrArg (token :: ·) hsplit) hclosing hbalanced hnone
      (by rw [hconvert, hfailure]; rfl)
  | strayOpening hsplit hopening hbody hnone hfailure =>
    rw [hread] at hsplit hnone
    exact .strayOpening hsplit hopening hbody hnone (by rw [hconvert, hfailure]; rfl)

/-- What is pending at the end is released, or under strictness the last parenthesis that is open
is an error. -/
theorem settles_release {read pending : List Token}
    (hopens : Opens (pending.filter (·.isOpening)) read) (hnone : ¬HasStrayClosing read) :
    Settles read [] (fun strict => release strict pending) := by
  cases hopen : pending.filter (·.isOpening) with
  | nil =>
    rw [hopen] at hopens
    have hpending : ∀ top ∈ pending, top.isOpening = false := by
      simpa [List.filter_eq_nil_iff] using hopen
    refine .balanced ?_ ?_ fun strict => release_operators hpending
    · rw [List.append_nil]
      exact hopens.isBalanced
    · rwa [List.append_nil]
  | cons opening outer =>
    rw [hopen] at hopens
    have hfind : pending.find? (·.isOpening) = some opening := by
      rw [← List.head?_filter, hopen]
      rfl
    obtain _ | ⟨hread, hopening, hbody⟩ := hopens
    refine .strayOpening (List.append_nil _) hopening hbody ?_ ?_
    · rwa [List.append_nil]
    · simp only [release, if_true, hfind]

/-- Every conversion settles: the opening parentheses that are pending are those that are open
behind the tokens that were read. -/
theorem settles_arrange {read tokens pending : List Token}
    (hopens : Opens (pending.filter (·.isOpening)) read) (hnone : ¬HasStrayClosing read) :
    Settles read tokens (fun strict => arrange strict pending tokens) := by
  induction tokens generalizing read pending with
  | nil =>
    simp only [arrange_nil]
    exact settles_release hopens hnone
  | cons token rest ih =>
    have hsame (hkind : token.kind ≠ .closing) : ¬HasStrayClosing (read ++ [token]) := by
      rw [hasStrayClosing_concat]
      exact not_or.mpr ⟨hnone, fun hstray => hkind hstray.1⟩
    cases hkind : token.kind with
    | operand =>
      have hother : token.isParenthesis = false := by simp [isParenthesis, hkind]
      exact .cons [token] (fun strict => arrange_operand hkind)
        (ih (hopens.concat hother) (hsame (by simp [hkind])))
    | opening =>
      have hopening : token.isOpening = true := by simp [isOpening, hkind]
      have hlater : Settles (read ++ [token]) rest
          (fun strict => arrange strict (token :: pending) rest) := by
        refine ih ?_ (hsame (by simp [hkind]))
        rw [List.filter_cons_of_pos hopening]
        exact .opening hopens hkind rfl
      exact .cons [] (fun strict => by rw [arrange_opening hkind]; simp) hlater
    | closing =>
      rcases isOpening_cases pending with
        hpending | ⟨group, partner, below, rfl, hgroup, hpartner⟩
      · have hclosed : pending.filter (·.isOpening) = [] := by
          simpa [List.filter_eq_nil_iff] using hpending
        rw [hclosed] at hopens
        refine .strayClosing (List.nil_append (token :: rest)).symm hkind ?_ ?_ ?_
        · rw [List.append_nil]
          exact hopens.isBalanced
        · rwa [List.append_nil]
        · simp only [arrange_stray hkind hpending, if_true]
      · rw [filter_append_of_forall hgroup, List.filter_cons_of_pos hpartner] at hopens
        refine .cons group (fun strict => arrange_closing hkind hgroup hpartner)
          (ih (hopens.concat_closing hkind) ?_)
        rw [hasStrayClosing_concat]
        exact not_or.mpr ⟨hnone, fun hstray => hstray.2 hopens.hasOpener⟩
    | operator op =>
      obtain ⟨blocking, below, rfl, hblocking, hbelow⟩ := exists_span (isBlockedBy op) pending
      have hother : token.isParenthesis = false := by simp [isParenthesis, hkind]
      have hopening : ¬token.isOpening = true := by simp [isOpening, hkind]
      rw [filter_append_of_forall fun top htop =>
        isOpening_of_isBlockedBy (hblocking top htop)] at hopens
      refine .cons blocking (fun strict => arrange_operator hkind hblocking hbelow)
        (ih ?_ (hsame (by simp [hkind])))
      rw [List.filter_cons_of_neg hopening]
      exact hopens.concat hother

/-- A conversion of all tokens settles. -/
theorem settles_arrange_nil (tokens : List Token) :
    Settles [] tokens (fun strict => arrange strict [] tokens) :=
  settles_arrange (.balanced rfl) fun ⟨_, _, _, hsplit, _⟩ => by simp at hsplit

/-- On balanced tokens strictness plays no part. -/
theorem exists_arrange_of_isBalanced {tokens : List Token}
    (htokens : isBalanced 0 tokens = true) :
    ∃ form, ∀ strict, arrange strict [] tokens = .ok form := by
  cases settles_arrange_nil tokens with
  | balanced _ _ hform => exact ⟨_, hform⟩
  | strayClosing hsplit hclosing hbefore =>
    rw [List.nil_append] at hbefore
    rw [hsplit, isBalanced_append_closing hbefore hclosing] at htokens
    cases htokens
  | strayOpening hsplit hopening hbody =>
    rw [List.nil_append] at hsplit
    exact absurd ⟨_, _, _, hsplit, hopening, not_hasCloser_of_isBalanced hbody⟩
      (not_hasStrayOpening_of_isBalanced htokens)

/-- On tokens that are not balanced, a strict conversion fails at the leftmost stray closing
parenthesis or, if there is none, at the rightmost stray opening one. -/
theorem arrange_strict_of_not_isBalanced {tokens : List Token}
    (htokens : isBalanced 0 tokens = false) :
    (∃ closing, IsFirstStrayClosing tokens closing ∧
      arrange true [] tokens = .error (.strayParenthesis closing.position ')')) ∨
    (¬HasStrayClosing tokens ∧ ∃ opening, IsLastStrayOpening tokens opening ∧
      arrange true [] tokens = .error (.strayParenthesis opening.position '(')) := by
  cases settles_arrange_nil tokens with
  | balanced hbalanced =>
    rw [List.nil_append, htokens] at hbalanced
    cases hbalanced
  | @strayClosing before after closing hsplit hclosing hbalanced hnone hfailure =>
    exact .inl ⟨closing, ⟨before, after, hsplit, hclosing,
      not_hasOpener_of_isBalanced hbalanced, hnone⟩, hfailure⟩
  | @strayOpening earlier body opening hsplit hopening hbody hnone hfailure =>
    exact .inr ⟨hnone, opening, ⟨earlier, body, hsplit, hopening,
      not_hasCloser_of_isBalanced hbody, not_hasStrayOpening_of_isBalanced hbody⟩, hfailure⟩

/-- Balanced tokens are those without stray parentheses. -/
theorem isBalanced_iff {tokens : List Token} :
    isBalanced 0 tokens = true ↔ ¬HasStrayClosing tokens ∧ ¬HasStrayOpening tokens := by
  constructor
  · intro hbalanced
    refine ⟨?_, not_hasStrayOpening_of_isBalanced hbalanced⟩
    cases settles_arrange_nil tokens with
    | balanced _ hnone => exact hnone
    | strayOpening _ _ _ hnone => exact hnone
    | strayClosing hsplit hclosing hbefore =>
      rw [List.nil_append] at hbefore
      rw [hsplit, isBalanced_append_closing hbefore hclosing] at hbalanced
      cases hbalanced
  · rintro ⟨hclosing, hopening⟩
    by_contra hbalanced
    rw [Bool.not_eq_true] at hbalanced
    rcases arrange_strict_of_not_isBalanced hbalanced with
      ⟨closing, ⟨before, after, hsplit, hkind, hstray, -⟩, -⟩ |
      ⟨-, opening, ⟨before, after, hsplit, hkind, hstray, -⟩, -⟩
    · exact hclosing ⟨before, closing, after, hsplit, hkind, hstray⟩
    · exact hopening ⟨before, opening, after, hsplit, hkind, hstray⟩

/-- Without strictness every conversion succeeds. -/
theorem exists_arrange_tolerant (pending tokens : List Token) :
    ∃ form, arrange false pending tokens = .ok form := by
  induction tokens generalizing pending with
  | nil => exact ⟨pending, by rw [arrange_nil]; rfl⟩
  | cons token rest ih =>
    cases hkind : token.kind with
    | operand =>
      obtain ⟨form, hform⟩ := ih pending
      exact ⟨token :: form, by rw [arrange_operand hkind, hform]; rfl⟩
    | opening =>
      obtain ⟨form, hform⟩ := ih (token :: pending)
      exact ⟨form, by rw [arrange_opening hkind, hform]⟩
    | closing =>
      rcases isOpening_cases pending with
        hnone | ⟨group, partner, below, rfl, hgroup, hpartner⟩
      · obtain ⟨form, hform⟩ := ih []
        exact ⟨pending ++ form, by rw [arrange_stray hkind hnone, hform]; rfl⟩
      · obtain ⟨form, hform⟩ := ih below
        exact ⟨group ++ form, by rw [arrange_closing hkind hgroup hpartner, hform]; rfl⟩
    | operator op =>
      obtain ⟨blocking, below, rfl, hblocking, hbelow⟩ := exists_span (isBlockedBy op) pending
      obtain ⟨form, hform⟩ := ih (token :: below)
      exact ⟨blocking ++ form, by rw [arrange_operator hkind hblocking hbelow, hform]; rfl⟩

/-- A conversion that fails names one of the parentheses. -/
theorem exists_parenthesis_of_arrange_error {strict : Bool} {tokens : List Token}
    {failure : Failure} (harrange : arrange strict [] tokens = .error failure) :
    ∃ token ∈ tokens,
      token.kind = .opening ∧ failure = .strayParenthesis token.position '(' ∨
      token.kind = .closing ∧ failure = .strayParenthesis token.position ')' := by
  cases strict with
  | false =>
    obtain ⟨form, hform⟩ := exists_arrange_tolerant [] tokens
    rw [hform] at harrange
    cases harrange
  | true =>
    cases hbalanced : isBalanced 0 tokens with
    | true =>
      obtain ⟨form, hform⟩ := exists_arrange_of_isBalanced hbalanced
      rw [hform] at harrange
      cases harrange
    | false =>
      rcases arrange_strict_of_not_isBalanced hbalanced with
        ⟨closing, ⟨before, after, rfl, hkind, -⟩, hfailure⟩ |
        ⟨-, opening, ⟨before, after, rfl, hkind, -⟩, hfailure⟩
      · exact ⟨closing, by simp, .inr ⟨hkind, Except.error.inj (harrange.symm.trans hfailure)⟩⟩
      · exact ⟨opening, by simp, .inl ⟨hkind, Except.error.inj (harrange.symm.trans hfailure)⟩⟩

/-- What stands in front of an opening parenthesis that is pending, if none of it is one, stands in
front of all that is above it, too. -/
theorem exists_group_of_append {group below inside rest : List Token} {opening : Token}
    (hopening : opening.isOpening = true) (hinside : ∀ top ∈ inside, top.isOpening = false)
    (hsplit : group ++ opening :: below = inside ++ rest) :
    ∃ above, group = inside ++ above ∧ rest = above ++ opening :: below := by
  induction inside generalizing group with
  | nil => exact ⟨group, rfl, hsplit.symm⟩
  | cons top inside ih =>
    obtain ⟨htop, hothers⟩ := List.forall_mem_cons.mp hinside
    cases group with
    | nil =>
      obtain ⟨rfl, -⟩ := List.cons_eq_cons.mp hsplit
      rw [hopening] at htop
      cases htop
    | cons first group =>
      obtain ⟨rfl, htail⟩ := List.cons_eq_cons.mp hsplit
      obtain ⟨above, rfl, hrest⟩ := ih hothers htail
      exact ⟨above, rfl, hrest⟩

/-- No token of a group without opening parentheses counts as one. -/
theorem countP_append_of_none {group : List Token} (hgroup : ∀ top ∈ group, top.isOpening = false)
    (above : List Token) :
    (group ++ above).countP (·.isOpening) = above.countP (·.isOpening) := by
  rw [List.countP_append, List.countP_eq_zero.mpr fun top htop => by simp [hgroup top htop],
    Nat.zero_add]

/-- An opening parenthesis that is pending stays in the postfix form, or the tokens close it behind
all opening ones above it. -/
theorem Arranges.mem_or_closes {strict : Bool} {group below tokens form : List Token}
    {opening : Token} (hopening : opening.isOpening = true)
    (harranges : Arranges strict (group ++ opening :: below) tokens form) :
    opening ∈ form ∨ ∃ body closing later, tokens = body ++ closing :: later ∧
      closing.kind = .closing ∧ Token.isBalanced (group.countP (·.isOpening)) body = true := by
  generalize hpending : group ++ opening :: below = pending at harranges
  induction harranges generalizing group below with
  | done =>
    subst hpending
    exact .inl (by simp)
  | @operand pending rest form token hkind hrest ih =>
    have hother : token.isParenthesis = false := by simp [isParenthesis, hkind]
    rcases ih hpending with hmem | ⟨body, closing, later, rfl, hclosing, hbody⟩
    · exact .inl (List.mem_cons_of_mem _ hmem)
    · exact .inr ⟨token :: body, closing, later, rfl, hclosing, by rwa [isBalanced_cons hother]⟩
  | @opening pending rest form token hkind hrest ih =>
    have htoken : token.isOpening = true := by simp [isOpening, hkind]
    refine (@ih (token :: group) below (congrArg (token :: ·) hpending)).imp_right ?_
    rintro ⟨body, closing, later, rfl, hclosing, hbody⟩
    rw [List.countP_cons_of_pos htoken] at hbody
    exact ⟨token :: body, closing, later, rfl, hclosing, by rwa [isBalanced_opening hkind]⟩
  | @closing inside outside rest form token partner hkind hinside hpartner hrest ih =>
    obtain ⟨above, rfl, habove⟩ := exists_group_of_append hopening hinside hpending
    rw [countP_append_of_none hinside]
    cases above with
    | nil => exact .inr ⟨[], token, rest, rfl, hkind, rfl⟩
    | cons first above =>
      obtain ⟨rfl, rfl⟩ := List.cons_eq_cons.mp habove
      rcases ih rfl with hmem | ⟨body, closing, later, rfl, hclosing, hbody⟩
      · exact .inl (List.mem_append_right _ hmem)
      · refine .inr ⟨token :: body, closing, later, rfl, hclosing, ?_⟩
        rwa [List.countP_cons_of_pos hpartner, isBalanced_closing hkind]
  | @stray pending rest form token hkind hstrict hnone hrest ih =>
    subst hpending
    simp [hnone opening (by simp)] at hopening
  | @operator blocking outside rest form token op hkind hblocking hbelow hrest ih =>
    have hother : token.isParenthesis = false := by simp [isParenthesis, hkind]
    have htoken : ¬token.isOpening = true := by simp [isOpening, hkind]
    have hnone : ∀ top ∈ blocking, top.isOpening = false := fun top htop =>
      isOpening_of_isBlockedBy (hblocking top htop)
    obtain ⟨above, rfl, rfl⟩ := exists_group_of_append hopening hnone hpending
    rw [countP_append_of_none hnone]
    rcases @ih (token :: above) below rfl with hmem | ⟨body, closing, later, rfl, hclosing, hbody⟩
    · exact .inl (List.mem_append_right _ hmem)
    · rw [List.countP_cons_of_neg htoken] at hbody
      exact .inr ⟨token :: body, closing, later, rfl, hclosing, by rwa [isBalanced_cons hother]⟩

/-- The conversion of tokens ends with a conversion of the last ones, behind what is pending
then. -/
theorem Arranges.exists_suffix {strict : Bool} {pending before rest form : List Token}
    (harranges : Arranges strict pending (before ++ rest) form) :
    ∃ later front released, form = front ++ released ∧ Arranges strict later rest released := by
  induction before generalizing pending form with
  | nil => exact ⟨pending, [], form, rfl, harranges⟩
  | cons token before ih =>
    cases harranges with
    | operand hkind hrest =>
      obtain ⟨later, front, released, rfl, hlater⟩ := ih hrest
      exact ⟨later, token :: front, released, rfl, hlater⟩
    | opening hkind hrest => exact ih hrest
    | closing hkind hgroup hpartner hrest =>
      obtain ⟨later, front, released, rfl, hlater⟩ := ih hrest
      exact ⟨later, _ ++ front, released, (List.append_assoc ..).symm, hlater⟩
    | stray hkind hstrict hpending hrest =>
      obtain ⟨later, front, released, rfl, hlater⟩ := ih hrest
      exact ⟨later, _ ++ front, released, (List.append_assoc ..).symm, hlater⟩
    | operator hkind hblocking hbelow hrest =>
      obtain ⟨later, front, released, rfl, hlater⟩ := ih hrest
      exact ⟨later, _ ++ front, released, (List.append_assoc ..).symm, hlater⟩

/-- A stray opening parenthesis stays in the postfix form. -/
theorem Arranges.mem_of_stray {strict : Bool} {before after form : List Token} {opening : Token}
    (harranges : Arranges strict [] (before ++ opening :: after) form)
    (hopening : opening.kind = .opening) (hstray : ¬HasCloser after) : opening ∈ form := by
  have hisOpening : opening.isOpening = true := by simp [isOpening, hopening]
  obtain ⟨pending, front, released, rfl, hlater⟩ := harranges.exists_suffix
  refine List.mem_append_right front ?_
  cases hlater with
  | operand hkind => simp [hkind] at hopening
  | closing hkind => simp [hkind] at hopening
  | stray hkind => simp [hkind] at hopening
  | operator hkind => simp [hkind] at hopening
  | opening _ hrest =>
    refine (@Arranges.mem_or_closes _ [] _ _ _ _ hisOpening hrest).resolve_right ?_
    rintro ⟨body, closing, later, hsplit, hclosing, hbody⟩
    exact hstray ⟨body, closing, later, hsplit, hclosing, hbody⟩

end Calculator.Postfix
