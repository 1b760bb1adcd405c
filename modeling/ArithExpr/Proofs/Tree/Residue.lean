import ArithExpr.Proofs.Token.Scanned
import ArithExpr.Proofs.Tree.Offence
import ArithExpr.Proofs.Validity.Rules

/-!
# What the rules leave to the reader

A stream that keeps the three rules need not make up a tree.  When its numbers are
digit runs and it has no foreign character, two things can still be wrong with it: a
point at an end of the stream or right behind a decimal (`EdgeOrChained`), which the
rule on points does not look at, and too deep a nesting (`TooDeep`).
`ofTokens_of_check` says that there is nothing else, and which of the two is reported.
In the other direction, a stream that makes up a tree keeps the rules on parentheses
and on points (`rules_of_ofTokens`).
-/

namespace ArithExpr.Tree

open Token Validity

/-- A point at either end of a stream, or with another point two places in front of it. -/
def EdgeOrChained (tokens : List Token) (place : Nat) : Prop :=
  KindAt tokens place .point ∧
    (place = 0 ∨ place + 1 = tokens.length ∨
      ∃ before, place = before + 2 ∧ KindAt tokens before .point)

/-- A `(` with as many groups open in front of it as may be open at all. -/
def TooDeep (limit : Nat) (tokens : List Token) (place : Nat) : Prop :=
  KindAt tokens place .leftParen ∧ nesting tokens place = limit

section Residue

variable {limit : Nat} {tokens : List Token} {place : Nat}

/-- A point that the rule lets pass is stray only at the ends or behind a decimal. -/
lemma strayPoint_iff_edgeOrChained (hpoints : PointRule tokens) :
    StrayPoint tokens place ↔ EdgeOrChained tokens place := by
  constructor
  · rintro ⟨hkind, hside | hchained⟩
    · refine ⟨hkind, ?_⟩
      by_contra hinner
      obtain ⟨hzero, hlast⟩ : place ≠ 0 ∧ place + 1 ≠ tokens.length := by tauto
      obtain ⟨start, rfl⟩ := Nat.exists_eq_succ_of_ne_zero hzero
      have hlt := hkind.lt_length
      exact hside ⟨start, rfl, hpoints start hkind (by omega)⟩
    · exact ⟨hkind, Or.inr (Or.inr hchained)⟩
  · rintro ⟨hkind, rfl | hlast | hchained⟩
    · refine ⟨hkind, Or.inl ?_⟩
      rintro ⟨start, heq, -⟩
      exact absurd heq (Nat.succ_ne_zero start).symm
    · refine ⟨hkind, Or.inl ?_⟩
      rintro ⟨start, rfl, hdecimal⟩
      have hlt := hdecimal.2.2.lt_length
      omega
    · exact ⟨hkind, Or.inr hchained⟩

/-- A number that is a run of digits, joined or not, is a numeral. -/
lemma exists_double?_numeralText (hdigits : DigitNumbers tokens)
    (hkind : KindAt tokens place .number) :
    ∃ value, Numeral.double? (numeralText (tokens.drop place)) = some value := by
  have hmem : ∀ token ∈ tokens.drop place, token.kind = .number →
      Text.IsDigitRun token.literal.toList :=
    fun token htoken => hdigits token (List.mem_of_mem_drop htoken)
  rw [← Nat.add_zero place, ← kindAt_drop] at hkind
  generalize tokens.drop place = rest at hmem hkind
  unfold numeralText
  split
  · next kind whole point fraction rest' =>
    refine Numeral.exists_double?_of_decimal (hmem _ List.mem_cons_self (by simpa using hkind)) ?_
    exact hmem ⟨.number, fraction⟩ (by simp) rfl
  · exact Numeral.exists_double?_of_isDigitRun (hmem _ List.mem_cons_self (by simpa using hkind))
  · simp [KindAt] at hkind

/-- In a stream that keeps the rules, the tokens that offend are the points the rules do not look at
and the `(` that go too deep. -/
theorem offence_iff_of_rules (hparens : checkParens tokens = .ok ())
    (hpoints : checkPoints tokens = .ok ()) (hforeign : NoForeign tokens)
    (hdigits : DigitNumbers tokens) (error : ParseError) :
    Offence limit tokens place error ↔
      (EdgeOrChained tokens place ∧ error = .unexpectedToken place .point) ∨
        (TooDeep limit tokens place ∧ error = .nestingTooDeep limit) := by
  rw [checkPoints_eq_ok_iff] at hpoints
  obtain ⟨hclose, -⟩ := (checkParens_eq_ok_iff tokens).mp hparens
  constructor
  · rintro (⟨hkind, hnone⟩ | ⟨hkind, hlimit⟩ | ⟨hkind, herror⟩ | hstray | ⟨hkind, -, hnone⟩)
    · have hopen := hclose place hkind
      omega
    · exact Or.inr ⟨⟨hkind, hlimit⟩, rfl⟩
    · obtain ⟨token, hmem, rfl⟩ := hkind.exists_mem
      exact absurd herror (by simp [hforeign token hmem])
    · exact Or.inl ⟨(strayPoint_iff_edgeOrChained hpoints).mp hstray, rfl⟩
    · obtain ⟨value, hvalue⟩ := exists_double?_numeralText hdigits hkind
      exact absurd (hvalue.symm.trans hnone) (Option.some_ne_none value)
  · rintro (⟨hedge, rfl⟩ | ⟨⟨hkind, hlimit⟩, rfl⟩)
    · exact .strayPoint ((strayPoint_iff_edgeOrChained hpoints).mpr hedge)
    · exact .tooDeep hkind hlimit

/-- In a stream that keeps the rules, nothing offends in front of the points the rules do not look
at and of the `(` that go too deep. -/
lemma noOffenceBefore_of_rules (hparens : checkParens tokens = .ok ())
    (hpoints : checkPoints tokens = .ok ()) (hforeign : NoForeign tokens)
    (hdigits : DigitNumbers tokens) {count : Nat}
    (hedge : ∀ place, EdgeOrChained tokens place → count ≤ place)
    (hdeep : ∀ deep, TooDeep limit tokens deep → count ≤ deep) :
    NoOffenceBefore limit tokens count := by
  intro place hlt error hoffence
  rcases (offence_iff_of_rules hparens hpoints hforeign hdigits error).mp hoffence with
    ⟨hplace, -⟩ | ⟨hplace, -⟩
  · exact Nat.not_le.mpr hlt (hedge place hplace)
  · exact Nat.not_le.mpr hlt (hdeep place hplace)

/-- A stream that keeps the rules on parentheses and points, without foreign tokens and with digit
runs for numbers, makes up a tree, or else the reader blames its depth or a point. -/
lemma ofTokens_cases_of_rules (hparens : checkParens (beforeEnd tokens) = .ok ())
    (hpoints : checkPoints (beforeEnd tokens) = .ok ()) (hforeign : NoForeign (beforeEnd tokens))
    (hdigits : DigitNumbers (beforeEnd tokens)) (limit : Nat) :
    (∃ tree, ofTokens limit tokens = .ok tree) ∨
      ofTokens limit tokens = .error (.nestingTooDeep limit) ∨
      ∃ place, ofTokens limit tokens = .error (.unexpectedToken place .point) := by
  have houtcome := outcome_ofTokens limit tokens
  cases hresult : ofTokens limit tokens with
  | ok tree => exact Or.inl ⟨tree, rfl⟩
  | error error =>
    refine Or.inr ?_
    rcases (houtcome.eq_error_iff error).mp hresult with ⟨place, -, hoffence⟩ | ⟨-, hopen, -⟩
    · rcases (offence_iff_of_rules hparens hpoints hforeign hdigits error).mp hoffence with
        ⟨-, rfl⟩ | ⟨-, rfl⟩
      · exact Or.inr ⟨place, rfl⟩
      · exact Or.inl rfl
    · have hclosed := ((checkParens_eq_ok_iff _).mp hparens).2
      omega

/-- A stream that makes up a tree keeps the rules on parentheses and points. -/
theorem rules_of_ofTokens {tree : Tree} (h : ofTokens limit tokens = .ok tree) :
    checkParens (beforeEnd tokens) = .ok () ∧ checkPoints (beforeEnd tokens) = .ok () := by
  obtain ⟨hclean, hclosed⟩ := (outcome_ofTokens limit tokens).eq_ok_iff.mp ⟨tree, h⟩
  have hmatched : ∀ place, KindAt (beforeEnd tokens) place .rightParen →
      nesting (beforeEnd tokens) place ≠ 0 :=
    fun place hkind hnone => hclean place _ (.unmatchedClose hkind hnone)
  have hnonneg := nesting_nonneg hmatched
  refine ⟨(checkParens_eq_ok_iff _).mpr ⟨fun place hkind => ?_, ?_⟩, ?_⟩
  · exact lt_of_le_of_ne (hnonneg place) (hmatched place hkind).symm
  · exact le_antisymm hclosed (hnonneg _)
  · refine (checkPoints_eq_ok_iff _).mpr fun place hpoint _ => ?_
    obtain ⟨start, heq, hdecimal⟩ := decimalAt_of_not_offence hclean hpoint
    obtain rfl : place = start := Nat.succ.inj heq
    exact hdecimal

end Residue

/-- A stream that keeps the rules, with digit runs for numbers and no foreign character, fails to
make up a tree at its first point at an end or behind a decimal, or at its first `(` that goes too
deep, whichever comes first, and else it makes up a tree. -/
theorem ofTokens_of_check {tokens : List Token} (hvalid : check tokens = .ok ())
    (hforeign : NoForeign (beforeEnd tokens)) (hdigits : DigitNumbers (beforeEnd tokens))
    (limit : Nat) :
    (∀ place, IsLeast {place | EdgeOrChained (beforeEnd tokens) place} place →
      (∀ deep, TooDeep limit (beforeEnd tokens) deep → place < deep) →
        ofTokens limit tokens = .error (.unexpectedToken place .point)) ∧
    (∀ deep, IsLeast {deep | TooDeep limit (beforeEnd tokens) deep} deep →
      (∀ place, EdgeOrChained (beforeEnd tokens) place → deep < place) →
        ofTokens limit tokens = .error (.nestingTooDeep limit)) ∧
    ((∀ place, ¬ EdgeOrChained (beforeEnd tokens) place) →
      (∀ deep, ¬ TooDeep limit (beforeEnd tokens) deep) →
        ∃ tree, ofTokens limit tokens = .ok tree) := by
  obtain ⟨hparens, -, hpoints⟩ := (check_eq_ok_iff tokens).mp hvalid
  have houtcome := outcome_ofTokens limit tokens
  refine ⟨fun place hleast hfirst => ?_, fun deep hleast hfirst => ?_, fun hedge hdeep => ?_⟩
  · have hoffence : Offence limit (beforeEnd tokens) place (.unexpectedToken place .point) :=
      (offence_iff_of_rules hparens hpoints hforeign hdigits _).mpr (Or.inl ⟨hleast.1, rfl⟩)
    refine houtcome.eq_error_of_first hoffence ?_
    exact noOffenceBefore_of_rules hparens hpoints hforeign hdigits
      (fun _ h => hleast.2 h) fun deep h => (hfirst deep h).le
  · have hoffence : Offence limit (beforeEnd tokens) deep (.nestingTooDeep limit) :=
      (offence_iff_of_rules hparens hpoints hforeign hdigits _).mpr (Or.inr ⟨hleast.1, rfl⟩)
    refine houtcome.eq_error_of_first hoffence ?_
    exact noOffenceBefore_of_rules hparens hpoints hforeign hdigits
      (fun place h => (hfirst place h).le) fun _ h => hleast.2 h
  · have hclean : NoOffenceBefore limit (beforeEnd tokens) (beforeEnd tokens).length :=
      noOffenceBefore_of_rules hparens hpoints hforeign hdigits
        (fun place h => absurd h (hedge place)) fun deep h => absurd h (hdeep deep)
    refine houtcome.eq_ok_iff.mpr ⟨hclean.not_offence, ?_⟩
    exact ((checkParens_eq_ok_iff _).mp hparens).2.le

/-- Two fractions in a row inside a group: the second point is reported, unless the group itself is
too deep. -/
theorem ofTokens_of_check_chained :
    let tokens : List Token := [⟨.leftParen, "("⟩, ⟨.number, "1"⟩, ⟨.point, "."⟩, ⟨.number, "2"⟩,
      ⟨.point, "."⟩, ⟨.number, "3"⟩, ⟨.rightParen, ")"⟩]
    check tokens = .ok () ∧ NoForeign (beforeEnd tokens) ∧ DigitNumbers (beforeEnd tokens) ∧
      ofTokens 1 tokens = .error (.unexpectedToken 4 .point) ∧
      ofTokens 0 tokens = .error (.nestingTooDeep 0) := by
  intro tokens
  have hvalid : check tokens = .ok () := by rfl
  have hforeign : NoForeign (beforeEnd tokens) := by unfold NoForeign; decide
  have hdigits : DigitNumbers (beforeEnd tokens) := by
    simp [tokens, DigitNumbers, Text.IsDigitRun, beforeEnd]
  have hfour : EdgeOrChained (beforeEnd tokens) 4 :=
    ⟨by decide, Or.inr (Or.inr ⟨2, rfl, by decide⟩)⟩
  have hedge : ∀ place, EdgeOrChained (beforeEnd tokens) place → 4 ≤ place := by
    rintro place ⟨hkind, hplace⟩
    have htwo : ∀ place < 4, KindAt (beforeEnd tokens) place .point → place = 2 := by decide
    by_contra hlt
    obtain rfl := htwo place (by omega) hkind
    obtain hzero | hlast | ⟨before, heq, hbefore⟩ := hplace
    · exact absurd hzero (by decide)
    · exact absurd hlast (by decide)
    · obtain rfl : 0 = before := by omega
      exact absurd hbefore (by decide)
  have hdeep (limit deep : Nat) (h : TooDeep limit (beforeEnd tokens) deep) :
      deep = 0 ∧ limit = 0 := by
    obtain ⟨hkind, hnesting⟩ := h
    have hzero : ∀ deep < 7, KindAt (beforeEnd tokens) deep .leftParen → deep = 0 := by
      decide
    obtain rfl := hzero deep hkind.lt_length hkind
    exact ⟨rfl, by simpa using hnesting.symm⟩
  obtain ⟨hpoint, -, -⟩ := ofTokens_of_check hvalid hforeign hdigits 1
  obtain ⟨-, hopen, -⟩ := ofTokens_of_check hvalid hforeign hdigits 0
  refine ⟨hvalid, hforeign, hdigits, hpoint 4 ⟨hfour, fun _ h => hedge _ h⟩ ?_, hopen 0 ⟨?_, ?_⟩ ?_⟩
  · intro deep h
    exact absurd (hdeep 1 deep h).2 (by decide)
  · exact ⟨by decide, nesting_zero _⟩
  · intro deep _
    exact Nat.zero_le deep
  · intro place h
    exact Nat.lt_of_lt_of_le (by decide) (hedge place h)

end ArithExpr.Tree
