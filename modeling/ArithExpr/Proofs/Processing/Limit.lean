import ArithExpr.Proofs.Processing.Stages
import Mathlib.Order.Bounds.Basic

/-!
# The nesting limit

The limit is looked at in one place only: where a `(` opens a group.  A reading that
never comes to a `(` at the limit is therefore the same under every greater limit
(`readFrom_of_le`), and one that does fails with the limit in its error.  Which of the
two happens is decided by the tree that the stream spells: its depth is the greatest
nesting in the stream (`Spells.isGreatest_nesting`), a number that is found by counting
parentheses, without any tree.

So the limit is a sharp threshold.  `limit_is_threshold` says this for any two limits,
and for a limit that was asked for, which is held to the ceiling first.
-/

namespace ArithExpr

namespace Tree

open Token

/-! ### Depth and nesting -/

section Depth

variable {tokens : List Token} {nodes : List Node}

/-- A stream that spells a run has no group open at its end. -/
lemma Spells.nesting_length (h : Spells tokens nodes) : nesting tokens tokens.length = 0 := by
  induction h with
  | nil => rfl
  | whole _ _ ih => simpa [nesting_cons_succ] using ih
  | decimal _ _ ih => simpa [nesting_cons_succ] using ih
  | operator hop _ ih =>
    obtain ⟨-, hopen, hclose, -⟩ := kind_of_operatorOf? hop
    simpa [nesting_cons_succ, hopen, hclose] using ih
  | @group opening closing within tokens _ _ _ _ ihinner ih =>
    have hinside : nesting (within ++ ⟨.rightParen, closing⟩ :: tokens)
        (within.length + (tokens.length + 1)) = -1 := by
      rw [nesting_append_add, nesting_cons_succ, ihinner, ih]
      simp
    rw [List.length_cons, List.length_append, List.length_cons, nesting_cons_succ, hinside]
    simp

/-- The nestings of a stream that spells a run have the same bounds as the depth of the run. -/
lemma Spells.forall_nesting_le_iff (h : Spells tokens nodes) (bound : Int) :
    (∀ count, nesting tokens count ≤ bound) ↔ (Node.depthOfAll nodes : Int) ≤ bound := by
  induction h generalizing bound with
  | nil => simp [nesting]
  | whole _ _ ih =>
    rw [forall_nesting_cons_le]
    simp only [reduceCtorEq, if_false, ih, Node.depthOfAll_cons, Node.depth_literal, Nat.zero_max]
    omega
  | decimal _ _ ih =>
    simp only [forall_nesting_cons_le, reduceCtorEq, if_false, ih, Node.depthOfAll_cons,
      Node.depth_literal, Nat.zero_max]
    omega
  | operator hop _ ih =>
    obtain ⟨-, hopen, hclose, -⟩ := kind_of_operatorOf? hop
    rw [forall_nesting_cons_le]
    simp only [if_neg hopen, if_neg hclose, ih, Node.depthOfAll_cons, Node.depth_operator,
      Nat.zero_max]
    omega
  | group hinner _ ihinner ih =>
    -- the group takes one level of the bound for its inside and gives it back at its `)`
    rw [forall_nesting_cons_le, forall_nesting_append_le, ihinner, forall_nesting_cons_le, ih,
      hinner.nesting_length, Node.depthOfAll_cons, Node.depth_group]
    simp only [reduceCtorEq, if_true, if_false]
    omega

/-- The depth of a run is the greatest nesting in the stream that spells it. -/
theorem Spells.isGreatest_nesting (h : Spells tokens nodes) :
    IsGreatest (Set.range (nesting tokens)) (Node.depthOfAll nodes : Int) := by
  have hbound := h.forall_nesting_le_iff
  refine ⟨?_, ?_⟩
  · -- if no nesting were the depth, all of them would be less
    by_contra hnone
    have hless : ∀ count, nesting tokens count ≤ (Node.depthOfAll nodes : Int) - 1 := by
      intro count
      have hle := (hbound _).mpr (le_refl _) count
      have hne : nesting tokens count ≠ (Node.depthOfAll nodes : Int) :=
        fun heq => hnone ⟨count, heq⟩
      omega
    have hdepth := (hbound _).mp hless
    omega
  · rintro _ ⟨count, rfl⟩
    exact (hbound _).mpr (le_refl _) count

end Depth

/-! ### Reading under two limits -/

section Limits

variable {limit limit' : Nat} {state : State} {tokens : List Token} {tree : Tree}

/-- A reading that does not run into the limit is the same under a greater one. -/
theorem readFrom_of_le (hle : limit ≤ limit') (hdepth : state.depth ≤ limit)
    (h : ∀ named, (readFrom limit state tokens).result ≠ .error (.nestingTooDeep named)) :
    readFrom limit' state tokens = readFrom limit state tokens := by
  fun_induction readFrom limit state tokens with
  | case1 state => rw [readFrom]
  | case2 state whole point fraction rest value hvalue ih =>
    rw [readFrom_decimal hvalue]
    exact ih hdepth h
  | case3 state whole point fraction rest hvalue => rw [readFrom, hvalue]
  | case4 state whole rest hrest value hvalue ih =>
    rw [readFrom, hvalue]
    · exact ih hdepth h
    · exact hrest
  | case5 state whole rest hrest hvalue =>
    rw [readFrom, hvalue]
    exact hrest
  | case6 state text rest hlimit => exact absurd rfl (h limit)
  | case7 state text rest hlimit ih =>
    have hlt : state.depth < limit := Nat.lt_of_le_of_ne hdepth hlimit
    rw [readFrom, if_neg (Nat.ne_of_lt (Nat.lt_of_lt_of_le hlt hle))]
    exact ih hlt h
  | case8 state text rest henclosing => rw [readFrom, henclosing]
  | case9 state text rest outer around henclosing ih =>
    rw [readFrom, henclosing]
    refine ih ?_ h
    rw [State.depth, henclosing, List.length_cons] at hdepth
    exact Nat.le_of_succ_le hdepth
  | case10 state kind text rest hdecimal hnumber hopen hclose op hop ih =>
    rw [readFrom_operator hop]
    exact ih hdepth h
  | case11 state kind text rest hdecimal hnumber hopen hclose hop =>
    rw [readFrom, hop]
    · exact hdecimal
    · exact hnumber
    · exact hopen
    · exact hclose

/-- What does not run into the limit has the same result under a greater one. -/
lemma ofTokens_of_le (hle : limit ≤ limit')
    (h : ∀ named, ofTokens limit tokens ≠ .error (.nestingTooDeep named)) :
    ofTokens limit' tokens = ofTokens limit tokens :=
  congrArg Reading.result (readFrom_of_le hle (Nat.zero_le _) h)

/-- A reading that runs into the limit names it. -/
lemma eq_of_nestingTooDeep {named : Nat}
    (h : ofTokens limit tokens = .error (.nestingTooDeep named)) : named = limit := by
  rcases ((outcome_ofTokens limit tokens).eq_error_iff _).mp h with
    ⟨place, -, hoffence⟩ | ⟨-, -, heq⟩
  · cases hoffence with
    | tooDeep => rfl
  · cases heq

/-- A stream that spells a tree deeper than the limit runs into it. -/
lemma ofTokens_eq_nestingTooDeep (h : Spells (beforeEnd tokens) tree.children)
    (hlt : limit < tree.depth) : ofTokens limit tokens = .error (.nestingTooDeep limit) := by
  have hread : ofTokens tree.depth tokens = .ok tree :=
    ofTokens_eq_ok_iff.mpr ⟨h, Nat.le_refl _⟩
  by_contra hne
  have hnamed : ∀ named, ofTokens limit tokens ≠ .error (.nestingTooDeep named) := by
    intro named hnamed
    obtain rfl := eq_of_nestingTooDeep hnamed
    exact hne hnamed
  rw [ofTokens_of_le hlt.le hnamed, ofTokens_eq_ok_iff] at hread
  exact absurd hread.2 (Nat.not_le.mpr hlt)

end Limits

end Tree

namespace Processing

open Token ArithExpr.Tree

section Ceiling

variable {settings : Settings} {source : String}

/-- A failure of the reader that a source shows is that of its tokens. -/
lemma ofTokens_of_parse_error {error : ParseError}
    (h : (parse settings source).value = .error (.parse error)) :
    ofTokens (clampDepth settings.maxDepth) (scan source) = .error error := by
  rw [value_parse] at h
  cases hlex : (lex source).value with
  | error lexical =>
    obtain ⟨token, offset, rfl⟩ := exists_lexical_of_value_lex hlex
    rw [hlex] at h
    cases h
  | ok tokens =>
    obtain ⟨-, rfl⟩ := value_lex_eq_ok_iff.mp hlex
    rw [hlex] at h
    simp only [Except.bind] at h
    split at h
    · cases hresult : ofTokens (clampDepth settings.maxDepth) (scan source) with
      | ok tree =>
        rw [hresult] at h
        cases h
      | error found =>
        rw [hresult] at h
        rw [ProcessingError.parse.inj (Except.error.inj h)]
    · cases h

end Ceiling

/-- The limit is a sharp threshold and changes nothing else.  What does not run into it has the same
result under every greater one.  A tree that is read under some limit is as deep as the greatest
nesting in its stream, and under a smaller limit it is read as well if it is no deeper than this
one, and else the reading runs into it.  A limit that is asked for, of the reader or in the
settings, is held to the ceiling: no tree is deeper than that, and no other limit is named. -/
theorem limit_is_threshold :
    (∀ (limit limit' : Nat) (tokens : List Token), limit ≤ limit' →
      ((∀ named, ofTokens limit tokens ≠ .error (.nestingTooDeep named)) →
        ofTokens limit' tokens = ofTokens limit tokens) ∧
      ∀ tree, ofTokens limit' tokens = .ok tree →
        IsGreatest (Set.range (nesting (beforeEnd tokens))) (tree.depth : Int) ∧
        (tree.depth ≤ limit → ofTokens limit tokens = .ok tree) ∧
        (limit < tree.depth → ofTokens limit tokens = .error (.nestingTooDeep limit))) ∧
    (∀ (requested : Nat) (tokens : List Token),
      (∀ tree, ofTokens (clampDepth requested) tokens = .ok tree →
        tree.depth ≤ min requested 1024) ∧
      ∀ named, ofTokens (clampDepth requested) tokens = .error (.nestingTooDeep named) →
        named = min requested 1024) ∧
    ∀ (settings : Settings) (source : String),
      (∀ tree, (parse settings source).value = .ok tree →
        tree.depth ≤ min settings.maxDepth 1024) ∧
      ∀ named, (parse settings source).value = .error (.parse (.nestingTooDeep named)) →
        named = min settings.maxDepth 1024 := by
  have hceiling (requested : Nat) (tokens : List Token) :
      (∀ tree, ofTokens (clampDepth requested) tokens = .ok tree →
        tree.depth ≤ min requested 1024) ∧
      ∀ named, ofTokens (clampDepth requested) tokens = .error (.nestingTooDeep named) →
        named = min requested 1024 :=
    ⟨fun tree htree => (ofTokens_eq_ok_iff.mp htree).2, fun named => eq_of_nestingTooDeep⟩
  refine ⟨fun limit limit' tokens hle => ⟨ofTokens_of_le hle, fun tree htree => ?_⟩, hceiling,
    fun settings source => ⟨fun tree htree => ?_, fun named hnamed => ?_⟩⟩
  · obtain ⟨hspells, -⟩ := ofTokens_eq_ok_iff.mp htree
    refine ⟨hspells.isGreatest_nesting, fun hdepth => ?_, ofTokens_eq_nestingTooDeep hspells⟩
    exact ofTokens_eq_ok_iff.mpr ⟨hspells, hdepth⟩
  · obtain ⟨-, -, hread⟩ := value_parse_eq_ok_iff.mp htree
    exact (hceiling settings.maxDepth (scan source)).1 tree hread
  · exact (hceiling settings.maxDepth (scan source)).2 named (ofTokens_of_parse_error hnamed)

/-- Two groups, one in the other: a limit of two lets them pass and so does any greater one, a limit
of one is named, and a limit beyond the ceiling is held to it. -/
theorem limit_is_threshold_two_groups :
    let tokens : List Token := [⟨.leftParen, "("⟩, ⟨.leftParen, "("⟩, ⟨.rightParen, ")"⟩,
      ⟨.rightParen, ")"⟩]
    let tree : Tree := ⟨[.group [.group []]]⟩
    (ofTokens 2 tokens = .ok tree ∧ ofTokens 5 tokens = ofTokens 2 tokens) ∧
    (tree.depth = 2 ∧ IsGreatest (Set.range (nesting (beforeEnd tokens))) (tree.depth : Int) ∧
      ofTokens 1 tokens = .error (.nestingTooDeep 1)) ∧
    ofTokens (clampDepth 5000) tokens = .ok tree ∧ tree.depth ≤ min 5000 1024 := by
  intro tokens tree
  obtain ⟨hlimits, hceiling, -⟩ := limit_is_threshold
  have htwo : ofTokens 2 tokens = .ok tree := rfl
  have hdepth : tree.depth = 2 := by simp [tree, depth]
  obtain ⟨hsame, -⟩ := hlimits 2 5 tokens (by decide)
  obtain ⟨-, htree⟩ := hlimits 1 2 tokens (by decide)
  obtain ⟨hgreatest, -, hdeep⟩ := htree tree htwo
  have hfive : ofTokens 5 tokens = ofTokens 2 tokens :=
    hsame fun named hnamed => by
      rw [htwo] at hnamed
      cases hnamed
  have hclamped : ofTokens (clampDepth 5000) tokens = .ok tree := rfl
  refine ⟨⟨htwo, hfive⟩, ⟨hdepth, hgreatest, hdeep ?_⟩, hclamped, ?_⟩
  · rw [hdepth]
    decide
  · exact (hceiling 5000 tokens).1 tree hclamped

end Processing

end ArithExpr
