import ArithExpr.Proofs.Token.Places
import ArithExpr.Validity
import Mathlib.Tactic.Common

/-!
# Where parentheses fail

The rule on parentheses stops at the first `)` that closes nothing, and otherwise
counts what is left open.  `Balance` says the same of the places of a stream, without
a counter: `balance_checkParens` ties the two together, so that the verdict can be
read off the nesting in front of each `)` and at the end.

The invariant of the scan is that the counter is the nesting so far and that every `)`
left behind had a group to close.
-/

namespace ArithExpr.Validity

open Token

/-- Every `)` among the first `count` tokens has an open group in front of it. -/
def MatchedBefore (tokens : List Token) (count : Nat) : Prop :=
  ∀ place < count, KindAt tokens place .rightParen → 0 < nesting tokens place

/-- What the places of a stream say about the rule on parentheses. -/
inductive Balance (tokens : List Token) : Except Rejection Unit → Prop
  | unmatched {place : Nat} (hclose : KindAt tokens place .rightParen)
      (hnone : nesting tokens place = 0) (hfirst : MatchedBefore tokens place) :
      Balance tokens (.error (.unmatchedClose place))
  | unclosed {count : Nat} (hmatched : MatchedBefore tokens tokens.length) (hopen : 0 < count)
      (hcount : nesting tokens tokens.length = count) : Balance tokens (.error (.unclosed count))
  | balanced (hmatched : MatchedBefore tokens tokens.length)
      (hclosed : nesting tokens tokens.length = 0) : Balance tokens (.ok ())

section Scan

variable {tokens rest : List Token} {index : Nat} {token : Token} {verdict : Except Rejection Unit}

/-- One more place, at which no `)` lacks its partner. -/
lemma MatchedBefore.succ (h : MatchedBefore tokens index)
    (hplace : KindAt tokens index .rightParen → 0 < nesting tokens index) :
    MatchedBefore tokens (index + 1) := by
  intro place hlt hclose
  rcases Nat.lt_succ_iff_lt_or_eq.mp hlt with hlt | rfl
  · exact h place hlt hclose
  · exact hplace hclose

/-- Where nothing is left, all places have been left behind. -/
lemma MatchedBefore.of_drop_nil (h : MatchedBefore tokens index) (hdrop : tokens.drop index = []) :
    MatchedBefore tokens tokens.length := by
  intro place hlt
  exact h place (Nat.lt_of_lt_of_le hlt (List.drop_eq_nil_iff.mp hdrop))

/-- Where nothing is left, the nesting is that at the end. -/
lemma nesting_length_of_drop_nil (hdrop : tokens.drop index = []) :
    nesting tokens tokens.length = nesting tokens index :=
  (nesting_of_length_le (List.drop_eq_nil_iff.mp hdrop)).symm

/-- From a place on where the counter is the nesting, the scan says what the places say. -/
theorem balance_parensFrom {depth : Nat} (hdrop : tokens.drop index = rest)
    (hdepth : nesting tokens index = depth) (hmatched : MatchedBefore tokens index) :
    Balance tokens (parensFrom index depth rest) := by
  fun_induction parensFrom index depth rest with
  | case1 index =>
    refine .balanced (hmatched.of_drop_nil hdrop) ?_
    rw [nesting_length_of_drop_nil hdrop, hdepth, Int.natCast_zero]
  | case2 index depth hopen =>
    refine .unclosed (hmatched.of_drop_nil hdrop) (Nat.pos_of_ne_zero hopen) ?_
    rw [nesting_length_of_drop_nil hdrop, hdepth]
  | case3 index depth token rest hkind ih =>
    refine ih (drop_succ_of_drop hdrop) ?_ (hmatched.succ fun hclose => ?_)
    · rw [nesting_succ_of_drop hdrop, hdepth]
      simp [hkind]
    · rw [kindAt_of_drop hdrop, hkind] at hclose
      cases hclose
  | case4 index token rest hkind =>
    exact .unmatched ((kindAt_of_drop hdrop _).mpr hkind) hdepth hmatched
  | case5 index token rest hkind outer ih =>
    refine ih (drop_succ_of_drop hdrop) ?_ (hmatched.succ fun _ => ?_)
    · rw [nesting_succ_of_drop hdrop, hdepth]
      simp [hkind]
    · rw [hdepth]
      exact Int.natCast_pos.mpr (Nat.succ_pos outer)
  | case6 index depth token rest hopen hclose ih =>
    refine ih (drop_succ_of_drop hdrop) ?_ (hmatched.succ fun hkind => ?_)
    · rw [nesting_succ_of_drop hdrop, hdepth, if_neg hopen, if_neg hclose]
      omega
    · exact absurd ((kindAt_of_drop hdrop _).mp hkind) hclose

/-- The rule on parentheses says what the places of the stream say. -/
theorem balance_checkParens (tokens : List Token) : Balance tokens (checkParens tokens) := by
  refine balance_parensFrom List.drop_zero (nesting_zero tokens) ?_
  intro place hlt
  exact absurd hlt (Nat.not_lt_zero place)

/-- A stream is accepted when a group is open in front of every `)` and none is open at the end. -/
lemma Balance.eq_ok_iff (h : Balance tokens verdict) :
    verdict = .ok () ↔ MatchedBefore tokens tokens.length ∧ nesting tokens tokens.length = 0 := by
  cases h with
  | @unmatched place hclose hnone _ =>
    refine ⟨nofun, fun ⟨hmatched, _⟩ => ?_⟩
    exact absurd hnone (Int.ne_of_gt (hmatched place hclose.lt_length hclose))
  | unclosed _ hopen hcount =>
    refine ⟨nofun, fun ⟨_, hclosed⟩ => ?_⟩
    omega
  | balanced hmatched hclosed => exact ⟨fun _ => ⟨hmatched, hclosed⟩, fun _ => rfl⟩

/-- Where a `)` stands with no open group in front of it, the rule blames a `)` at that place or in
front of it. -/
lemma Balance.exists_unmatched (h : Balance tokens verdict) {place : Nat}
    (hclose : KindAt tokens place .rightParen) (hnone : nesting tokens place ≤ 0) :
    ∃ first ≤ place, verdict = .error (.unmatchedClose first) ∧
      KindAt tokens first .rightParen ∧ nesting tokens first = 0 ∧ MatchedBefore tokens first := by
  cases h with
  | @unmatched first hclose' hnone' hfirst =>
    refine ⟨first, ?_, rfl, hclose', hnone', hfirst⟩
    by_contra hlt
    exact absurd (hfirst place (Nat.lt_of_not_le hlt) hclose) (Int.not_lt.mpr hnone)
  | unclosed hmatched | balanced hmatched =>
    exact absurd (hmatched place hclose.lt_length hclose) (Int.not_lt.mpr hnone)

end Scan

end ArithExpr.Validity
