import ArithExpr.Proofs.Tree.Residue
import ArithExpr.Proofs.Validity.Balance

/-!
# The reader and the rules on parentheses and points

The reader matches parentheses while it builds groups, the rule on parentheses counts
them, and each stops where it finds its own kind of fault.  They nevertheless tell the
same story: a `)` that the reader cannot place is the first one the rule can find no
partner for, a group that the reader has open at the end is one the rule counts as
unclosed, and a stream that either of them accepts breaks no parenthesis for the other.

The reader may stop earlier for a reason of its own.  So a stream with unbalanced
parentheses has no tree, but the reader's error need not name a parenthesis.
-/

namespace ArithExpr.Tree

open Token Validity

/-- A `)` with no group open in front of it. -/
def UnmatchedClose (tokens : List Token) (place : Nat) : Prop :=
  KindAt tokens place .rightParen ∧ nesting tokens place ≤ 0

section Parens

variable {limit : Nat} {tokens : List Token} {result : Except ParseError Tree}

/-- When every earlier `)` has a partner, a `)` without one is the first. -/
lemma isLeast_unmatchedClose {place : Nat} (hclose : KindAt tokens place .rightParen)
    (hnone : nesting tokens place = 0) (hfirst : MatchedBefore tokens place) :
    IsLeast {place | UnmatchedClose tokens place} place := by
  refine ⟨⟨hclose, hnone.le⟩, ?_⟩
  rintro other ⟨hother, hle⟩
  by_contra hlt
  have hopen : 0 < nesting tokens other := hfirst other (Nat.lt_of_not_le hlt) hother
  exact absurd hle (Int.not_le.mpr hopen)

/-- Without an offence in front of a place, every `)` there has a partner. -/
lemma matchedBefore_of_noOffenceBefore {count : Nat} (h : NoOffenceBefore limit tokens count) :
    MatchedBefore tokens count := by
  intro place hlt hclose
  by_contra hnone
  obtain ⟨first, hle, -, hfirst, hzero, -⟩ :=
    (balance_checkParens tokens).exists_unmatched hclose (Int.not_lt.mp hnone)
  exact h first (Nat.lt_of_le_of_lt hle hlt) _ (.unmatchedClose hfirst hzero)

/-- The reader cannot place a `)` only where it is the first that the rule finds no partner for. -/
lemma Outcome.checkParens_of_unmatched (h : Outcome limit tokens result) {place : Nat}
    (hresult : result = .error (.malformedGrouping place)) (hlt : place < tokens.length) :
    checkParens tokens = .error (.unmatchedClose place) ∧
      IsLeast {place | UnmatchedClose tokens place} place := by
  cases h with
  | offence hoffence hfirst =>
    obtain rfl := Except.error.inj hresult
    cases hoffence with
    | unmatchedClose hclose hnone =>
      have hmatched := matchedBefore_of_noOffenceBefore hfirst
      obtain ⟨first, hle, hverdict, hclose', hnone', -⟩ :=
        (balance_checkParens tokens).exists_unmatched hclose hnone.le
      have hsame : first = place := by
        by_contra hne
        have hopen : 0 < nesting tokens first :=
          hmatched first (Nat.lt_of_le_of_ne hle hne) hclose'
        rw [hnone'] at hopen
        exact absurd hopen (Int.lt_irrefl 0)
      rw [hverdict, hsame]
      exact ⟨rfl, isLeast_unmatchedClose hclose hnone hmatched⟩
  | unclosed hclean hopen =>
    obtain rfl := ParseError.malformedGrouping.inj (Except.error.inj hresult)
    exact absurd hlt (Nat.lt_irrefl _)
  | complete => cases hresult

/-- The reader finds a group open at the end only where the rule counts one. -/
lemma Outcome.checkParens_of_unclosed (h : Outcome limit tokens result)
    (hresult : result = .error (.malformedGrouping tokens.length)) :
    ∃ count, checkParens tokens = .error (.unclosed count) := by
  cases h with
  | offence hoffence hfirst =>
    obtain rfl := Except.error.inj hresult
    exact absurd hoffence.lt_length (by cases hoffence; exact Nat.lt_irrefl _)
  | unclosed hclean hopen =>
    have hmatched := matchedBefore_of_noOffenceBefore hclean
    generalize hverdict : checkParens tokens = verdict
    cases hverdict ▸ balance_checkParens tokens with
    | unmatched hclose hnone hfirst =>
      have hpos := hmatched _ hclose.lt_length hclose
      rw [hnone] at hpos
      exact absurd hpos (Int.lt_irrefl 0)
    | @unclosed count _ _ _ => exact ⟨count, rfl⟩
    | balanced _ hclosed =>
      rw [hclosed] at hopen
      exact absurd hopen (Int.lt_irrefl 0)
  | complete => cases hresult

/-- A stream that keeps the rule on parentheses is never blamed for one. -/
lemma ne_malformedGrouping_of_checkParens
    (h : checkParens (beforeEnd tokens) = .ok ()) (index : Nat) :
    ofTokens limit tokens ≠ .error (.malformedGrouping index) := by
  intro hresult
  have houtcome := outcome_ofTokens limit tokens
  by_cases hlt : index < (beforeEnd tokens).length
  · obtain ⟨hverdict, -⟩ := houtcome.checkParens_of_unmatched hresult hlt
    rw [h] at hverdict
    cases hverdict
  · obtain rfl : index = (beforeEnd tokens).length := by
      rcases (houtcome.eq_error_iff _).mp hresult with ⟨place, -, hoffence⟩ | ⟨-, -, heq⟩
      · have hplace := hoffence.lt_length
        cases hoffence
        exact absurd hplace hlt
      · exact ParseError.malformedGrouping.inj heq
    obtain ⟨count, hverdict⟩ := houtcome.checkParens_of_unclosed hresult
    rw [h] at hverdict
    cases hverdict

end Parens

/-- What the reader finds wrong with parentheses is what the rule finds wrong with them, and a
stream that makes up a tree keeps the rules on parentheses and points, so that only the operators
are left to check.  A valid stream is never blamed for a parenthesis, and one that breaks the rule
on parentheses makes up no tree under any limit. -/
theorem parens_and_points_of_ofTokens (limit : Nat) (tokens : List Token) :
    (∀ tree, ofTokens limit tokens = .ok tree →
      checkParens (beforeEnd tokens) = .ok () ∧ checkPoints (beforeEnd tokens) = .ok () ∧
        (check tokens = .ok () ↔ checkOperators (beforeEnd tokens) = .ok ())) ∧
    (∀ index < (beforeEnd tokens).length,
      ofTokens limit tokens = .error (.malformedGrouping index) →
        (checkParens (beforeEnd tokens)).mapError Rejection.fault = .error .leftParenShortage ∧
          IsLeast {place | UnmatchedClose (beforeEnd tokens) place} index) ∧
    (ofTokens limit tokens = .error (.malformedGrouping (beforeEnd tokens).length) →
      (checkParens (beforeEnd tokens)).mapError Rejection.fault = .error .rightParenShortage) ∧
    (check tokens = .ok () → ∀ index, ofTokens limit tokens ≠ .error (.malformedGrouping index)) ∧
    (∀ rejection, checkParens (beforeEnd tokens) = .error rejection →
      ∃ error, ofTokens limit tokens = .error error) := by
  have houtcome := outcome_ofTokens limit tokens
  refine ⟨fun tree htree => ?_, fun index hlt hresult => ?_, fun hresult => ?_,
    fun hvalid index => ?_, fun rejection hrejection => ?_⟩
  · obtain ⟨hparens, hpoints⟩ := rules_of_ofTokens htree
    refine ⟨hparens, hpoints, ?_⟩
    rw [check_eq_ok_iff]
    exact ⟨fun h => h.2.1, fun h => ⟨hparens, h, hpoints⟩⟩
  · obtain ⟨hverdict, hleast⟩ := houtcome.checkParens_of_unmatched hresult hlt
    rw [hverdict]
    exact ⟨rfl, hleast⟩
  · obtain ⟨count, hverdict⟩ := houtcome.checkParens_of_unclosed hresult
    rw [hverdict]
    rfl
  · obtain ⟨hparens, -, -⟩ := (check_eq_ok_iff tokens).mp hvalid
    exact ne_malformedGrouping_of_checkParens hparens index
  · cases hresult : ofTokens limit tokens with
    | error error => exact ⟨error, rfl⟩
    | ok tree =>
      obtain ⟨hparens, -⟩ := rules_of_ofTokens hresult
      rw [hparens] at hrejection
      cases hrejection

/-- A `)` too many in front of a `(` too many: the `)` is found first by both.  A group left open,
and an empty group, which is valid. -/
theorem parens_and_points_of_ofTokens_unbalanced :
    let closes : List Token := [⟨.minus, "-"⟩, ⟨.rightParen, ")"⟩, ⟨.leftParen, "("⟩]
    let opens : List Token := [⟨.leftParen, "("⟩, ⟨.leftParen, "("⟩, ⟨.rightParen, ")"⟩]
    let empty : List Token := [⟨.leftParen, "("⟩, ⟨.rightParen, ")"⟩]
    (ofTokens 2 closes = .error (.malformedGrouping 1) ∧
      (checkParens (beforeEnd closes)).mapError Rejection.fault = .error .leftParenShortage ∧
      IsLeast {place | UnmatchedClose (beforeEnd closes) place} 1) ∧
    (ofTokens 2 opens = .error (.malformedGrouping 3) ∧
      (checkParens (beforeEnd opens)).mapError Rejection.fault = .error .rightParenShortage) ∧
    (checkParens (beforeEnd opens) = .error (.unclosed 1) ∧
      ∃ error, ofTokens 2 opens = .error error) ∧
    (ofTokens 1 empty = .ok ⟨[.group []]⟩ ∧ checkParens (beforeEnd empty) = .ok ()) ∧
    (check empty = .ok () ∧ ofTokens 0 empty ≠ .error (.malformedGrouping 2)) := by
  intro closes opens empty
  obtain ⟨-, hcloses, -, -, -⟩ := parens_and_points_of_ofTokens 2 closes
  obtain ⟨-, -, hopens, -, hbroken⟩ := parens_and_points_of_ofTokens 2 opens
  obtain ⟨hempty, -, -, -, -⟩ := parens_and_points_of_ofTokens 1 empty
  obtain ⟨-, -, -, hvalid, -⟩ := parens_and_points_of_ofTokens 0 empty
  refine ⟨⟨rfl, hcloses 1 (by decide) rfl⟩, ⟨rfl, hopens rfl⟩, ⟨rfl, hbroken (.unclosed 1) rfl⟩,
    ⟨rfl, (hempty _ rfl).1⟩, ⟨rfl, hvalid rfl 2⟩⟩

end ArithExpr.Tree
