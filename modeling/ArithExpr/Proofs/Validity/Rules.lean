import ArithExpr.Proofs.Results
import ArithExpr.Proofs.Validity.Balance
import ArithExpr.Proofs.Validity.Scans

/-!
# Streams that keep the rules

What it means that a stream keeps a rule, without the scan that finds it out:

* `checkParens_eq_ok_iff`: no `)` stands where no group is open, and none is open at
  the end;
* `checkOperators_eq_ok_iff`: the kinds behind every operator go on as `OperatorRule`
  says;
* `checkPoints_eq_ok_iff`: every point strictly inside the stream is the middle of a
  number, a point and a number.
-/

namespace ArithExpr.Validity

open Token

/-! ### Parentheses -/

/-- The parentheses of a stream are balanced when a group is open in front of every `)`, and none
is open at the end. -/
lemma checkParens_eq_ok_iff (tokens : List Token) :
    checkParens tokens = .ok () ↔
      (∀ place, KindAt tokens place .rightParen → 0 < nesting tokens place) ∧
        nesting tokens tokens.length = 0 := by
  rw [(balance_checkParens tokens).eq_ok_iff]
  refine and_congr_left fun _ => ⟨fun h place hclose => ?_, fun h place _ => h place⟩
  exact h place hclose.lt_length hclose

/-! ### Operators -/

/-- Kinds go on behind an operator as the operator rule wants it: with one that is not `+`, `*` or
`/`, and with a number behind that if it is `-`. -/
def ContinuesOperator : List Kind → Prop
  | [] => False
  | next :: rest => next.isNormalOperator = false ∧ (next = .minus → rest.head? = some .number)

/-- Behind every operator the kinds go on as the operator rule wants it. -/
def OperatorRule : List Kind → Prop
  | [] => True
  | kind :: rest => (kind.isOperator = true → ContinuesOperator rest) ∧ OperatorRule rest

/-- A kind that is no operator asks for nothing. -/
lemma operatorRule_cons_of_not_operator {kind : Kind} (h : kind.isOperator = false)
    (rest : List Kind) : OperatorRule (kind :: rest) ↔ OperatorRule rest := by
  simp [OperatorRule, h]

/-- An operator asks for what comes next. -/
lemma operatorRule_cons_of_operator {kind : Kind} (h : kind.isOperator = true)
    (rest : List Kind) :
    OperatorRule (kind :: rest) ↔ ContinuesOperator rest ∧ OperatorRule rest := by
  simp [OperatorRule, h]

/-- The operators behind a first token are those of what follows it. -/
lemma operatorAt_cons_succ (token : Token) (rest : List Token) (place : Nat) :
    OperatorAt (token :: rest) (place + 1) ↔ OperatorAt rest place := by
  simp only [OperatorAt, kindAt_cons_succ]

/-- A place behind a first token is followed well when it is in what follows that token. -/
lemma followedWell_cons_succ (token : Token) (rest : List Token) (place : Nat) :
    FollowedWell (token :: rest) (place + 1) ↔ FollowedWell rest place := by
  rw [FollowedWell, Nat.add_right_comm place 1 2]
  simp only [kindAt_cons_succ, FollowedWell]

/-- A first token is followed well when the kinds of the others go on as behind an operator. -/
lemma followedWell_cons_zero (token : Token) (rest : List Token) :
    FollowedWell (token :: rest) 0 ↔ ContinuesOperator (rest.map Token.kind) := by
  cases rest with
  | nil => simp [FollowedWell, ContinuesOperator, KindAt]
  | cons next rest =>
    have hhead : (rest.map Token.kind).head? = rest[0]?.map Token.kind := by
      rw [List.head?_map, List.head?_eq_getElem?]
    simp only [FollowedWell, List.map_cons, ContinuesOperator, hhead, KindAt, ← Bool.not_eq_true,
      isNormalOperator_iff_mem]
    simp

/-- The kinds keep the rule when every operator is followed well. -/
lemma operatorRule_iff_places (tokens : List Token) :
    OperatorRule (tokens.map Token.kind) ↔
      ∀ place, OperatorAt tokens place → FollowedWell tokens place := by
  induction tokens with
  | nil => simp [OperatorRule, OperatorAt, KindAt]
  | cons token rest ih =>
    rw [List.map_cons, OperatorRule, ih, ← followedWell_cons_zero token,
      ← operatorAt_of_drop List.drop_zero]
    constructor
    · rintro ⟨hzero, hsucc⟩ (_ | place)
      · exact hzero
      · rw [operatorAt_cons_succ, followedWell_cons_succ]
        exact hsucc place
    · intro h
      refine ⟨h 0, fun place => ?_⟩
      rw [← operatorAt_cons_succ token, ← followedWell_cons_succ token]
      exact h (place + 1)

/-- The operators of a stream keep the rule when each is followed as the rule wants it. -/
lemma checkOperators_eq_ok_iff (tokens : List Token) :
    checkOperators tokens = .ok () ↔ OperatorRule (tokens.map Token.kind) := by
  rw [checkOperators_eq_ok_iff_places, operatorRule_iff_places]

/-! ### Points -/

/-- A point strictly inside the stream is the middle of a number, a point and a number. -/
def PointRule (tokens : List Token) : Prop :=
  ∀ place, KindAt tokens (place + 1) .point → place + 2 < tokens.length → DecimalAt tokens place

/-- The points of a stream keep the rule when those strictly inside lie between numbers. -/
lemma checkPoints_eq_ok_iff (tokens : List Token) :
    checkPoints tokens = .ok () ↔ PointRule tokens := by
  rw [checkPoints_eq_ok_iff_places]
  constructor
  · intro h place hpoint hlt
    obtain ⟨hleft, hright⟩ := h (place + 1) ⟨hpoint, Nat.le_add_left 1 place, hlt⟩
    exact ⟨hleft, hpoint, hright⟩
  · rintro h place ⟨hpoint, hfirst, hlast⟩
    obtain ⟨start, rfl⟩ := Nat.exists_eq_add_of_le' hfirst
    obtain ⟨hleft, -, hright⟩ := h start hpoint hlast
    exact ⟨hleft, hright⟩

/-! ### The verdict -/

/-- A stream is valid when its part in front of the end marker keeps each rule. -/
theorem check_eq_ok_iff (tokens : List Token) :
    check tokens = .ok () ↔
      checkParens (beforeEnd tokens) = .ok () ∧ checkOperators (beforeEnd tokens) = .ok () ∧
        checkPoints (beforeEnd tokens) = .ok () := by
  simp only [check, bind_eq_ok_iff]
  constructor
  · rintro ⟨⟨⟩, hparens, ⟨⟩, hoperators, hpoints⟩
    exact ⟨hparens, hoperators, hpoints⟩
  · rintro ⟨hparens, hoperators, hpoints⟩
    exact ⟨(), hparens, (), hoperators, hpoints⟩

end ArithExpr.Validity
