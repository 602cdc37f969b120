import Calculator.Proofs.Number.Opposite

/-!
# Notations of numbers

An integer is written as an optional sign and digits. A real number may also have a decimal point
and an exponent; infinity and not-a-number are words in any letter case. This file states these
notations as relations and proves that reading accepts exactly them and gives each its number, and
that the text of an integer is a notation of it.
-/

namespace Calculator

namespace Decimal

/-- A sign in front of a number, or none. -/
inductive Sign
  | none
  | plus
  | minus

namespace Sign

/-- The characters of a sign. -/
def chars : Sign → List Char
  | none => []
  | plus => ['+']
  | minus => ['-']

/-- Whether the numbers with this sign are negative. -/
def isNegative : Sign → Bool
  | none | plus => false
  | minus => true

/-- The integer with this sign. -/
def apply (sign : Sign) (n : Nat) : Int :=
  if sign.isNegative then -(n : Int) else n

end Sign

/-- Whether a text is one or more digits. -/
def AreDigits (text : List Char) : Prop :=
  text ≠ [] ∧ ∀ c ∈ text, c.isDigit = true

/-- The notations of an integer: an optional sign and digits. -/
inductive WritesInt : List Char → Int → Prop
  | intro (sign : Sign) {digits : List Char} (hdigits : AreDigits digits) :
      WritesInt (sign.chars ++ digits) (sign.apply (Nat.ofDigitChars 10 digits 0))

/-- A decimal point with the digits behind it, if there is one. -/
inductive WritesFraction : List Char → List Char → Prop
  | none : WritesFraction [] []
  | point {digits : List Char} (hdigits : ∀ c ∈ digits, c.isDigit = true) :
      WritesFraction ('.' :: digits) digits

/-- A decimal exponent behind its letter, or zero if there is none. -/
inductive WritesExponent : List Char → Int → Prop
  | none : WritesExponent [] 0
  | letter {e : Char} (he : e = 'e' ∨ e = 'E') {text : List Char} {n : Int}
      (hn : WritesInt text n) : WritesExponent (e :: text) n

/-- The notations of a real number without its sign. There must be a digit before or behind the
decimal point. -/
inductive WritesMagnitude (negative : Bool) : List Char → Numeral → Prop
  | nan {word : List Char} (hword : word.map Char.toLower = "nan".toList) :
      WritesMagnitude negative word .nan
  | infinite {word : List Char} (hword : word.map Char.toLower = "inf".toList ∨
      word.map Char.toLower = "infinity".toList) :
      WritesMagnitude negative word (.infinite negative)
  | finite {whole point fraction tail : List Char} {exponent : Int}
      (hdigits : AreDigits (whole ++ fraction)) (hpoint : WritesFraction point fraction)
      (htail : WritesExponent tail exponent) :
      WritesMagnitude negative (whole ++ (point ++ tail))
        (.finite negative (Nat.ofDigitChars 10 (whole ++ fraction) 0) (exponent - fraction.length))

/-- The notations of a real number. -/
inductive Writes : List Char → Numeral → Prop
  | intro (sign : Sign) {text : List Char} {numeral : Numeral}
      (hmagnitude : WritesMagnitude sign.isNegative text numeral) :
      Writes (sign.chars ++ text) numeral

variable {text : List Char}

/-- Reading accepts digits and gives them their number. -/
theorem readDigits?_eq_some_iff {n : Nat} :
    readDigits? text = some n ↔ AreDigits text ∧ Nat.ofDigitChars 10 text 0 = n := by
  simp [readDigits?, AreDigits]

/-- A text is its sign and what stands behind it. -/
theorem exists_takeSign (text : List Char) :
    ∃ sign : Sign, text = sign.chars ++ (takeSign text).2 ∧
      (takeSign text).1 = sign.isNegative := by
  fun_cases takeSign text with
  | case1 => exact ⟨.minus, rfl, rfl⟩
  | case2 => exact ⟨.plus, rfl, rfl⟩
  | case3 => exact ⟨.none, rfl, rfl⟩

/-- The sign in front of a text that has none is taken off. -/
theorem takeSign_append (sign : Sign) (hhead : ∀ c ∈ text.head?, isControl c = false) :
    takeSign (sign.chars ++ text) = (sign.isNegative, text) := by
  cases sign with
  | none => exact takeSign_eq_self hhead
  | plus | minus => rfl

/-- An integer is what its digits stand for, with its sign. -/
theorem readInt?_eq_map (text : List Char) :
    readInt? text = (readDigits? (takeSign text).2).map fun n : Nat =>
      if (takeSign text).1 then -(n : Int) else n := by
  rcases hsign : takeSign text with ⟨negative, digits⟩
  simp only [readInt?, hsign]
  cases readDigits? digits <;> rfl

/-- Reading accepts the notations of an integer and gives them the integer. -/
theorem readInt?_eq_some_iff {n : Int} : readInt? text = some n ↔ WritesInt text n := by
  rw [readInt?_eq_map, Option.map_eq_some_iff]
  constructor
  · rintro ⟨magnitude, hread, rfl⟩
    obtain ⟨hdigits, rfl⟩ := readDigits?_eq_some_iff.mp hread
    obtain ⟨sign, htext, hsign⟩ := exists_takeSign text
    have hwrites := WritesInt.intro sign hdigits
    rwa [← htext, Sign.apply, ← hsign] at hwrites
  · rintro ⟨sign, hdigits⟩
    have hread := readDigits?_eq_some_iff.mpr ⟨hdigits, rfl⟩
    rw [takeSign_append sign (isUnsigned_of_readDigits? hread).head]
    exact ⟨_, hread, rfl⟩

/-- Reading accepts the notations of an exponent and gives them the exponent. -/
theorem readExponent?_eq_some_iff {n : Int} :
    readExponent? text = some n ↔ WritesExponent text n := by
  constructor
  · intro hread
    fun_cases readExponent? text with
    | case1 =>
      cases hread
      exact .none
    | case2 e rest he =>
      rw [readExponent?, if_pos he] at hread
      exact .letter he (readInt?_eq_some_iff.mp hread)
    | case3 e rest he =>
      rw [readExponent?, if_neg he] at hread
      cases hread
  · intro hwrites
    cases hwrites with
    | none => rfl
    | letter he hn =>
      rw [readExponent?, if_pos he]
      exact readInt?_eq_some_iff.mpr hn

/-- The first character of an exponent is neither a digit nor a point. -/
theorem WritesExponent.head {n : Int} (htail : WritesExponent text n) :
    ∀ c ∈ text.head?, c.isDigit = false ∧ c ≠ '.' := by
  cases htail with
  | none => exact nofun
  | letter he hn => rcases he with rfl | rfl <;> simp

/-- What stands behind a fraction is cut off. -/
theorem takeFraction_append {point digits tail : List Char} {n : Int}
    (hpoint : WritesFraction point digits) (htail : WritesExponent tail n) :
    takeFraction (point ++ tail) = (digits, tail) := by
  cases hpoint with
  | none =>
    rw [List.nil_append, takeFraction]
    rintro rest rfl
    exact (htail.head '.' rfl).2 rfl
  | point hdigits =>
    have hstop : ∀ c ∈ tail.head?, c.isDigit = false := fun c hc => (htail.head c hc).1
    rw [List.cons_append, takeFraction, takeWhile_span hdigits hstop, dropWhile_span hdigits hstop]

/-- What is cut off stands behind a fraction. -/
theorem exists_takeFraction (text : List Char) :
    ∃ point, text = point ++ (takeFraction text).2 ∧
      WritesFraction point (takeFraction text).1 := by
  fun_cases takeFraction text with
  | case1 rest =>
    refine ⟨'.' :: rest.takeWhile Char.isDigit, ?_, ?_⟩
    · rw [List.cons_append, List.takeWhile_append_dropWhile]
    · exact .point fun c hc => List.mem_takeWhile_imp hc
  | case2 => exact ⟨[], rfl, .none⟩

/-- A character that is no letter has no other letter case. -/
theorem toLower_eq_self {c : Char} (hc : c.val.toNat < 65) : c.toLower = c := by
  refine dif_neg ?_
  simp only [UInt32.le_iff_toNat_le, ge_iff_le, show 'A'.val.toNat = 65 from rfl]
  omega

/-- A text that begins with a digit or a point is no word for a number. -/
theorem map_toLower_ne_word {c : Char} (hc : c.isDigit = true ∨ c = '.') (rest : List Char) :
    (c :: rest).map Char.toLower ∉ ["nan".toList, "inf".toList, "infinity".toList] := by
  have hlower : c.toLower = c := by
    refine toLower_eq_self ?_
    rcases hc with hdigit | rfl
    · simp only [Char.isDigit, Bool.and_eq_true, decide_eq_true_eq, UInt32.le_iff_toNat_le,
        show '9'.val.toNat = 57 from rfl] at hdigit
      omega
    · decide
  intro hword
  have hletter : c = 'n' ∨ c = 'i' := by
    simp only [List.map_cons, hlower, List.mem_cons, List.not_mem_nil, or_false] at hword
    rcases hword with hword | hword | hword
    · exact .inl (Option.some.inj (congrArg List.head? hword))
    all_goals exact .inr (Option.some.inj (congrArg List.head? hword))
  rcases hletter with rfl | rfl <;> exact absurd hc (by decide)

/-- A number that is written with digits begins with a digit or a point. -/
theorem exists_head {whole point fraction : List Char} (hdigits : AreDigits (whole ++ fraction))
    (hpoint : WritesFraction point fraction) (tail : List Char) :
    ∃ c rest, whole ++ (point ++ tail) = c :: rest ∧ (c.isDigit = true ∨ c = '.') := by
  cases whole with
  | cons c rest => exact ⟨c, _, rfl, .inl (hdigits.2 c (by simp))⟩
  | nil =>
    cases hpoint with
    | none => exact absurd rfl hdigits.1
    | point => exact ⟨'.', _, rfl, .inr rfl⟩

/-- What is written without a sign does not begin with one. -/
theorem WritesMagnitude.head {negative : Bool} {numeral : Numeral}
    (hmagnitude : WritesMagnitude negative text numeral) :
    ∀ c ∈ text.head?, isControl c = false := by
  cases hmagnitude with
  | nan hword => exact (isUnsigned_of_map_toLower hword (by decide) (by decide)).head
  | infinite hword =>
    rcases hword with hword | hword
    all_goals exact (isUnsigned_of_map_toLower hword (by decide) (by decide)).head
  | finite hdigits hpoint htail =>
    obtain ⟨c, rest, htext, hc⟩ := exists_head hdigits hpoint _
    rw [htext]
    rintro _ ⟨⟩
    rcases hc with hdigit | rfl
    · exact (plain_of_isDigit hdigit).1
    · rfl

/-- Reading accepts the notations of a real number without its sign and gives them the number. -/
theorem readMagnitude?_eq_some_iff {negative : Bool} {numeral : Numeral} :
    readMagnitude? negative text = some numeral ↔ WritesMagnitude negative text numeral := by
  constructor
  · intro hread
    unfold readMagnitude? at hread
    simp only at hread
    split at hread
    · rename_i hword
      cases hread
      exact .nan hword
    · split at hread
      · rename_i hword
        cases hread
        exact .infinite hword
      · split at hread
        · rename_i significand exponent hsignificand hexponent
          cases hread
          obtain ⟨hdigits, rfl⟩ := readDigits?_eq_some_iff.mp hsignificand
          obtain ⟨point, hsplit, hpoint⟩ := exists_takeFraction (text.dropWhile Char.isDigit)
          have hwrites := @WritesMagnitude.finite negative _ _ _ _ _ hdigits hpoint
            (readExponent?_eq_some_iff.mp hexponent)
          rwa [← hsplit, List.takeWhile_append_dropWhile] at hwrites
        · cases hread
  · intro hmagnitude
    cases hmagnitude with
    | nan hword => simp only [readMagnitude?, hword, if_true]
    | infinite hword =>
      rcases hword with hword | hword <;> simp only [readMagnitude?, hword] <;> rfl
    | @finite whole point fraction tail exponent hdigits hpoint htail =>
      obtain ⟨c, rest, htext, hc⟩ := exists_head hdigits hpoint tail
      have hword := map_toLower_ne_word hc rest
      rw [← htext] at hword
      simp only [List.mem_cons, List.not_mem_nil, or_false, not_or] at hword
      obtain ⟨hnan, hshort, hlong⟩ := hword
      have hwhole : ∀ d ∈ whole, d.isDigit = true := fun d hd =>
        hdigits.2 d (List.mem_append_left _ hd)
      have hstop : ∀ d ∈ (point ++ tail).head?, d.isDigit = false := by
        cases hpoint with
        | none => exact fun d hd => (htail.head d hd).1
        | point => rintro _ ⟨⟩; rfl
      have hsignificand := readDigits?_eq_some_iff.mpr ⟨hdigits, rfl⟩
      have hexponent := readExponent?_eq_some_iff.mpr htail
      simp only [readMagnitude?, hnan, hshort, hlong, or_self, if_false,
        takeWhile_span hwhole hstop, dropWhile_span hwhole hstop, takeFraction_append hpoint htail,
        hsignificand, hexponent]

/-- Reading accepts the notations of a real number and gives them the number. -/
theorem Numeral.read?_eq_some_iff {numeral : Numeral} :
    Numeral.read? text = some numeral ↔ Writes text numeral := by
  constructor
  · intro hread
    have hmagnitude : readMagnitude? (takeSign text).1 (takeSign text).2 = some numeral := hread
    obtain ⟨sign, htext, hsign⟩ := exists_takeSign text
    rw [hsign, readMagnitude?_eq_some_iff] at hmagnitude
    rw [htext]
    exact .intro sign hmagnitude
  · rintro ⟨sign, hmagnitude⟩
    simp only [Numeral.read?, takeSign_append sign hmagnitude.head]
    exact readMagnitude?_eq_some_iff.mpr hmagnitude

/-- Every integer is a real number in the same notation. -/
theorem WritesInt.exists_writes {n : Int} (hwrites : WritesInt text n) :
    ∃ numeral, Writes text numeral := by
  obtain ⟨sign, hdigits⟩ := hwrites
  rename_i digits
  have hfinite := @WritesMagnitude.finite sign.isNegative digits [] [] [] 0
    (by rwa [List.append_nil]) .none .none
  rw [List.nil_append, List.append_nil] at hfinite
  exact ⟨_, .intro sign hfinite⟩

/-- The digits of a natural number. -/
theorem areDigits_toDigits (n : Nat) : AreDigits (Nat.toDigits 10 n) :=
  ⟨Nat.toDigits_ne_nil, fun _ => Nat.isDigit_of_mem_toDigits (by decide) (by decide)⟩

/-- The digits of a natural number are one of its notations. -/
theorem writesInt_toDigits (n : Nat) : WritesInt (Nat.toDigits 10 n) n := by
  have hwrites := WritesInt.intro .none (areDigits_toDigits n)
  rwa [Nat.ofDigitChars_ten_toDigits] at hwrites

/-- The text of an integer is one of its notations. -/
theorem writesInt_writeInt (n : Int) : WritesInt (writeInt n).toList n := by
  cases n with
  | ofNat n =>
    rw [writeInt, Nat.toList_repr]
    exact writesInt_toDigits n
  | negSucc n =>
    have hwrites := WritesInt.intro .minus (areDigits_toDigits (n + 1))
    rw [Nat.ofDigitChars_ten_toDigits] at hwrites
    rwa [writeInt, String.toList_append, Nat.toList_repr]

section Suffixes

/-- An exponent has no suffix in it. -/
theorem WritesExponent.ne_suffix {n : Int} (htail : WritesExponent text n) :
    ∀ c ∈ text, c ≠ 'f' := by
  cases htail with
  | none => exact nofun
  | letter he hn =>
    have hdigits := forall_mem_of_readInt? (P := (· ≠ 'f')) (by decide) (by decide)
      (fun _ hdigit => ne_of_isDigit hdigit rfl) (readInt?_eq_some_iff.mpr hn)
    refine List.forall_mem_cons.mpr ⟨?_, hdigits⟩
    rcases he with rfl | rfl <;> decide

/-- A number that is written with digits has no suffix in it. -/
theorem ne_suffix_of_areDigits {whole point fraction tail : List Char} {exponent : Int}
    (hdigits : AreDigits (whole ++ fraction)) (hpoint : WritesFraction point fraction)
    (htail : WritesExponent tail exponent) : ∀ c ∈ whole ++ (point ++ tail), c ≠ 'f' := by
  obtain ⟨hwhole, hfraction⟩ := List.forall_mem_append.mp fun c hc =>
    ne_of_isDigit (hdigits.2 c hc) (d := 'f') rfl
  refine List.forall_mem_append.mpr ⟨hwhole, List.forall_mem_append.mpr ⟨?_, htail.ne_suffix⟩⟩
  cases hpoint with
  | none => exact nofun
  | point => exact List.forall_mem_cons.mpr ⟨by decide, hfraction⟩

/-- A word for a number ends in the suffix only if it does so in lower case. -/
theorem getLast?_ne_suffix {word lower : List Char} (hword : word.map Char.toLower = lower)
    (hlast : lower.getLast? ≠ some 'f') : ∀ c ∈ word.getLast?, c ≠ 'f' := by
  rintro _ hc rfl
  rw [← hword, List.getLast?_map, Option.mem_def.mp hc] at hlast
  exact hlast rfl

/-- Of the numbers without a sign only short infinities end in the suffix. -/
theorem WritesMagnitude.getLast?_ne_suffix_or {negative : Bool} {numeral : Numeral}
    (hmagnitude : WritesMagnitude negative text numeral) :
    (∀ c ∈ text.getLast?, c ≠ 'f') ∨
      numeral = .infinite negative ∧ ∃ first second, text = [first, second, 'f'] ∧
        first.toLower = 'i' ∧ second.toLower = 'n' := by
  cases hmagnitude with
  | nan hword => exact .inl (getLast?_ne_suffix hword (by decide))
  | infinite hword =>
    rcases hword with hshort | hlong
    · rcases text with _ | ⟨first, _ | ⟨second, _ | ⟨third, _ | _⟩⟩⟩ <;> simp at hshort
      obtain ⟨hfirst, hsecond, -⟩ := hshort
      by_cases hthird : third = 'f'
      · exact .inr ⟨rfl, first, second, by rw [hthird], hfirst, hsecond⟩
      · exact .inl (by simpa using hthird)
    · exact .inl (getLast?_ne_suffix hlong (by decide))
  | finite hdigits hpoint htail =>
    have hplain := ne_suffix_of_areDigits hdigits hpoint htail
    exact .inl fun c hc => hplain c (List.mem_of_mem_getLast? hc)

/-- A sign in front of a text puts no suffix at its end. -/
theorem Sign.getLast?_append_ne_suffix (sign : Sign) (hlast : ∀ c ∈ text.getLast?, c ≠ 'f') :
    ∀ c ∈ (sign.chars ++ text).getLast?, c ≠ 'f' := by
  rw [List.getLast?_append]
  cases hend : text.getLast? with
  | none =>
    intro c hc
    have hmem : c ∈ sign.chars := List.mem_of_mem_getLast? hc
    cases sign <;> simp_all [chars]
  | some last => rwa [hend] at hlast

/-- A letter comes from itself or from its capital letter. -/
theorem eq_or_eq_of_toLower {c lower capital : Char} (hcapital : capital.val + 32 = lower.val)
    (hc : c.toLower = lower) : c = lower ∨ c = capital := by
  unfold Char.toLower at hc
  split at hc
  · have hval : c.val + 32 = lower.val := congrArg Char.val hc
    rw [← hcapital, UInt32.add_left_inj] at hval
    exact .inr (Char.ext hval)
  · exact .inl hc

/-- Without its last letter a short infinity is no number. -/
theorem read?_eq_none_of_infinity (sign : Sign) {first second : Char}
    (hfirst : first.toLower = 'i') (hsecond : second.toLower = 'n')
    (htrim : Text.trim text = sign.chars ++ [first, second, 'f']) :
    Numeral.read? (plainNotation text) = none := by
  rw [plainNotation, htrim]
  rcases @eq_or_eq_of_toLower _ _ 'I' rfl hfirst with rfl | rfl <;>
    rcases @eq_or_eq_of_toLower _ _ 'N' rfl hsecond with rfl | rfl <;>
      cases sign <;> rfl

/-- The plain notation of a real number in one of its notations is this notation, or the number is
infinite and its plain notation is no number at all. -/
theorem plainNotation_of_writes {numeral : Numeral} (hwrites : Writes (Text.trim text) numeral) :
    plainNotation text = Text.trim text ∨
      (∃ negative, numeral = .infinite negative) ∧ Numeral.read? (plainNotation text) = none := by
  have hcomma : ∀ c ∈ Text.trim text, c ≠ ',' := by
    rintro _ hc rfl
    cases isNumeric_of_read? (Numeral.read?_eq_some_iff.mpr hwrites) _ hc
  generalize htrim : Text.trim text = trimmed at hwrites
  obtain ⟨sign, hmagnitude⟩ := hwrites
  rcases hmagnitude.getLast?_ne_suffix_or with
    hlast | ⟨hinfinite, first, second, rfl, hfirst, hsecond⟩
  · refine .inl (htrim ▸ plainNotation_eq_trim ?_ hcomma)
    rw [htrim]
    exact sign.getLast?_append_ne_suffix hlast
  · exact .inr ⟨⟨_, hinfinite⟩, read?_eq_none_of_infinity sign hfirst hsecond htrim⟩

end Suffixes

end Decimal

open Decimal

namespace Word

variable {w : Nat}

/-- The integer of a word is in its range. -/
theorem range_toInt (x : BitVec w) : minimum w ≤ x.toInt ∧ x.toInt ≤ maximum w := by
  have hlow := BitVec.le_toInt x
  have hhigh := @BitVec.toInt_lt w x
  simp only [minimum, maximum, Nat.pow_eq]
  push_cast
  omega

/-- Reading a word accepts the notations of its integer. -/
theorem read?_eq_some_iff (hw : 0 < w) {text : List Char} {x : BitVec w} :
    read? w text = some x ↔ WritesInt text x.toInt := by
  simp only [read?, Option.bind_eq_some_iff, readInt?_eq_some_iff]
  constructor
  · rintro ⟨n, hwrites, hread⟩
    split at hread
    · rename_i hrange
      cases hread
      rwa [toInt_ofInt hw hrange]
    · cases hread
  · intro hwrites
    exact ⟨x.toInt, hwrites, by rw [if_pos (range_toInt x), BitVec.ofInt_toInt]⟩

/-- An integer in one of its notations is a literal that stands for it. -/
theorem literal?_of_read? {text : String} {x : BitVec w}
    (hread : (arithmetic w).read? (Text.trim text.toList) = some x) :
    (arithmetic w).literal? text = some x := by
  obtain ⟨n, hn, -⟩ := Option.bind_eq_some_iff.mp hread
  rw [literal?_eq_read?, plainNotation_of_readInt? hn]
  exact hread

end Word

namespace FloatingPoint

variable {α : Type} [FloatingPoint α]

/-- The notations of a floating-point number: those of the real numbers that it is nearest to. -/
def Writes (text : List Char) (x : α) : Prop :=
  ∃ numeral, Decimal.Writes text numeral ∧ ofNumeral numeral = x

/-- Reading a floating-point number accepts its notations. -/
theorem read?_eq_some_iff {text : List Char} {x : α} :
    (arithmetic α).read? text = some x ↔ Writes text x := by
  simp only [arithmetic, read?, Option.map_eq_some_iff, Numeral.read?_eq_some_iff, Writes]

/-- A real number in one of its notations is a literal that stands for it. If its last letter is
taken for a suffix, what is left is no number, and the text is read as it stands. -/
theorem literal?_of_read? {text : String} {x : α}
    (hread : (arithmetic α).read? (Text.trim text.toList) = some x) :
    (arithmetic α).literal? text = some x := by
  obtain ⟨numeral, hwrites, rfl⟩ := read?_eq_some_iff.mp hread
  rcases plainNotation_of_writes hwrites with hplain | ⟨-, hnone⟩
  · rw [literal?_eq, hplain, hread]
    rfl
  · have hfailed : (arithmetic α).read? (plainNotation text.toList) = none := by
      simp only [arithmetic, read?, hnone, Option.map_none]
    rw [literal?_eq, hfailed, hread]
    rfl

/-- The second reading finds infinities only: a literal whose plain notation is no number is
infinite. -/
theorem infinite_of_literal? {text : String} {x : α}
    (hplain : (arithmetic α).read? (plainNotation text.toList) = none)
    (hliteral : (arithmetic α).literal? text = some x) :
    ∃ negative, x = ofNumeral (.infinite negative) := by
  have hread : (arithmetic α).read? (Text.trim text.toList) = some x := by
    rw [literal?_eq, hplain] at hliteral
    exact hliteral
  obtain ⟨numeral, hwrites, rfl⟩ := read?_eq_some_iff.mp hread
  rcases plainNotation_of_writes hwrites with hsame | ⟨⟨negative, rfl⟩, -⟩
  · rw [hsame, hread] at hplain
    cases hplain
  · exact ⟨negative, rfl⟩

end FloatingPoint

namespace NumberKind

/-- The notations of the numbers of a kind. -/
def Writes : (kind : NumberKind) → List Char → kind.Value → Prop
  | int32, text, x => WritesInt text (BitVec.toInt x)
  | int64, text, x => WritesInt text (BitVec.toInt x)
  | float32, text, x => @FloatingPoint.Writes Float32 _ text x
  | float64, text, x => @FloatingPoint.Writes Float _ text x

/-- In every kind reading accepts the notations of the numbers and gives them their number. -/
theorem read?_eq_some_iff {kind : NumberKind} {text : List Char} {x : kind.Value} :
    kind.arithmetic.read? text = some x ↔ kind.Writes text x := by
  cases kind with
  | int32 => exact @Word.read?_eq_some_iff 32 (by decide) _ _
  | int64 => exact @Word.read?_eq_some_iff 64 (by decide) _ _
  | float32 => exact @FloatingPoint.read?_eq_some_iff Float32 _ _ _
  | float64 => exact @FloatingPoint.read?_eq_some_iff Float _ _ _

/-- In every kind a number in one of its notations is a literal that stands for it. -/
theorem literal?_of_read? {kind : NumberKind} {text : String} {x : kind.Value}
    (hread : kind.arithmetic.read? (Text.trim text.toList) = some x) :
    kind.arithmetic.literal? text = some x := by
  cases kind with
  | int32 => exact @Word.literal?_of_read? 32 _ _ hread
  | int64 => exact @Word.literal?_of_read? 64 _ _ hread
  | float32 => exact @FloatingPoint.literal?_of_read? Float32 _ _ _ hread
  | float64 => exact @FloatingPoint.literal?_of_read? Float _ _ _ hread

end NumberKind

end Calculator
