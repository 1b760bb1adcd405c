import ArithExpr.Proofs.Token.Places
import ArithExpr.Validity
import Mathlib.Tactic.Common

/-!
# Scans that skip

The rules on operators and on points go through a stream in steps of different lengths:
a scan passes over what stands behind an operator, over two tokens if that is `-`, and
over the number behind a good point.  Here each rule is stated for every place by itself
(`OperatorBreach`, `PointBreach`), and a scan that begins anywhere is shown to stop at
the first breach from there on and to say what stands there
(`findsFirst_operatorsFrom`, `findsFirst_pointsFrom`).

So what is passed over hides nothing.  Behind an operator that is followed well stands
either no operator or a `-` with a number behind it, which is followed well itself; and
the number behind a point is no point.
-/

namespace ArithExpr.Validity

open Token

/-! ### The first breach -/

/-- A verdict is a rejection for a fault. -/
def Blames (fault : Fault) (verdict : Except Rejection Unit) : Prop :=
  ∃ rejection, verdict = .error rejection ∧ rejection.fault = fault

/-- The verdict of a scan that begins at a place: what the first breach from there on is rejected
with, and a success if there is none. -/
inductive FindsFirst (breach : Nat → Rejection → Prop) (start : Nat) :
    Except Rejection Unit → Prop
  | kept (hkept : ∀ place rejection, start ≤ place → ¬ breach place rejection) :
      FindsFirst breach start (.ok ())
  | broken {place : Nat} {rejection : Rejection} (hstart : start ≤ place)
      (hbreach : breach place rejection)
      (hfirst : ∀ earlier other, start ≤ earlier → breach earlier other → place ≤ earlier) :
      FindsFirst breach start (.error rejection)

section FindsFirst

variable {breach : Nat → Rejection → Prop} {start : Nat} {verdict : Except Rejection Unit}

/-- A breach where the scan begins is the first. -/
lemma FindsFirst.here {rejection : Rejection} (h : breach start rejection) :
    FindsFirst breach start (.error rejection) := by
  apply FindsFirst.broken (Nat.le_refl start) h
  intro earlier other hstart _
  exact hstart

/-- A place without a breach can be passed over. -/
lemma FindsFirst.skip (h : FindsFirst breach (start + 1) verdict)
    (hkept : ∀ rejection, ¬ breach start rejection) : FindsFirst breach start verdict := by
  have hlater {place : Nat} {rejection : Rejection} (hle : start ≤ place)
      (hbreach : breach place rejection) : start + 1 ≤ place := by
    rcases Nat.eq_or_lt_of_le hle with rfl | hlt
    · exact absurd hbreach (hkept rejection)
    · exact hlt
  cases h with
  | kept hnone =>
    apply FindsFirst.kept
    intro place rejection hle hbreach
    exact hnone place rejection (hlater hle hbreach) hbreach
  | broken hstart hbreach hfirst =>
    apply FindsFirst.broken (Nat.le_of_succ_le hstart) hbreach
    intro earlier other hle hother
    exact hfirst earlier other (hlater hle hother) hother

/-- A scan succeeds when there is no breach from its beginning on. -/
lemma FindsFirst.eq_ok_iff (h : FindsFirst breach start verdict) :
    verdict = .ok () ↔ ∀ place, start ≤ place → ¬ ∃ rejection, breach place rejection := by
  cases h with
  | kept hkept =>
    refine ⟨fun _ => ?_, fun _ => rfl⟩
    rintro place hle ⟨rejection, hbreach⟩
    exact hkept place rejection hle hbreach
  | @broken place rejection hstart hbreach _ =>
    refine ⟨nofun, fun hnone => ?_⟩
    exact absurd ⟨rejection, hbreach⟩ (hnone place hstart)

/-- A scan that fails does so for a breach. -/
lemma FindsFirst.exists_breach {rejection : Rejection}
    (h : FindsFirst breach start (.error rejection)) : ∃ place, breach place rejection := by
  cases h with
  | broken _ hbreach => exact ⟨_, hbreach⟩

/-- When all breaches are instances of one fault, a scan that does not succeed blames it. -/
lemma FindsFirst.blames_iff (h : FindsFirst breach start verdict) {fault : Fault}
    (hfault : ∀ place rejection, breach place rejection → rejection.fault = fault) :
    Blames fault verdict ↔ verdict ≠ .ok () := by
  cases h with
  | kept =>
    refine ⟨?_, fun hne => absurd rfl hne⟩
    rintro ⟨rejection, hrejection, -⟩
    cases hrejection
  | @broken place rejection _ hbreach _ =>
    exact ⟨fun _ => nofun, fun _ => ⟨rejection, rfl, hfault place rejection hbreach⟩⟩

end FindsFirst

/-! ### Operators -/

/-- One of `+`, `-`, `*` and `/` stands at a place. -/
def OperatorAt (tokens : List Token) (place : Nat) : Prop :=
  ∃ kind ∈ [Kind.plus, .minus, .multiply, .divide], KindAt tokens place kind

/-- Behind a place stands a token that may stand behind an operator: it is not `+`, `*` or `/`, and
if it is `-`, a number comes next. -/
def FollowedWell (tokens : List Token) (place : Nat) : Prop :=
  ∃ next, KindAt tokens (place + 1) next ∧ next ∉ [Kind.plus, .multiply, .divide] ∧
    (next = .minus → KindAt tokens (place + 2) .number)

/-- The operator at a place is not followed as the rule wants it, and this is what it is rejected
with. -/
inductive OperatorBreach (tokens : List Token) (place : Nat) : Rejection → Prop
  | last (hoperator : OperatorAt tokens place) (hlast : tokens.length = place + 1) :
      OperatorBreach tokens place (.endsOnOperator place)
  | operatorNext {next : Token} (hoperator : OperatorAt tokens place)
      (hnext : tokens[place + 1]? = some next)
      (hkind : next.kind ∈ [Kind.plus, .multiply, .divide]) :
      OperatorBreach tokens place (.operatorAfterOperator place next)
  | minusLast (hoperator : OperatorAt tokens place) (hminus : KindAt tokens (place + 1) .minus)
      (hlast : tokens.length = place + 2) : OperatorBreach tokens place (.endsOnMinus place)
  | noNumber {found : Token} (hoperator : OperatorAt tokens place)
      (hminus : KindAt tokens (place + 1) .minus) (hfound : tokens[place + 2]? = some found)
      (hkind : found.kind ≠ .number) :
      OperatorBreach tokens place (.minusWithoutNumber (place + 2) found)

section Operators

variable {tokens rest : List Token} {place : Nat} {token next : Token} {kind : Kind}

/-- The operators are the kinds that the rule looks behind. -/
lemma isOperator_iff_mem :
    kind.isOperator = true ↔ kind ∈ [Kind.plus, .minus, .multiply, .divide] := by
  cases kind <;> decide

/-- The operators other than `-` are the kinds that it does not want there. -/
lemma isNormalOperator_iff_mem :
    kind.isNormalOperator = true ↔ kind ∈ [Kind.plus, .multiply, .divide] := by
  cases kind <;> decide

/-- The first token left is an operator when its kind is one. -/
lemma operatorAt_of_drop (hdrop : tokens.drop place = token :: rest) :
    OperatorAt tokens place ↔ token.kind.isOperator = true := by
  unfold OperatorAt
  simp only [kindAt_of_drop hdrop, isOperator_iff_mem, exists_eq_right']

/-- Past the end of a stream stands no operator. -/
lemma OperatorAt.lt_length (h : OperatorAt tokens place) : place < tokens.length := by
  obtain ⟨kind, -, hkind⟩ := h
  exact hkind.lt_length

/-- A breach is an operator. -/
lemma OperatorBreach.operatorAt {rejection : Rejection}
    (h : OperatorBreach tokens place rejection) : OperatorAt tokens place := by
  cases h <;> assumption

/-- A breach is not followed well. -/
lemma OperatorBreach.not_followedWell {rejection : Rejection}
    (h : OperatorBreach tokens place rejection) : ¬ FollowedWell tokens place := by
  rintro ⟨next, hnext, hnormal, hminus⟩
  cases h with
  | last _ hlast =>
    have hlt := hnext.lt_length
    omega
  | operatorNext _ htoken hkind =>
    rw [← (kindAt_of_getElem? htoken).unique hnext] at hnormal
    exact hnormal hkind
  | minusLast _ hkind hlast =>
    have hlt := (hminus (hnext.unique hkind)).lt_length
    omega
  | noNumber _ hkind hfound hother =>
    have hnumber := hminus (hnext.unique hkind)
    exact hother ((kindAt_of_getElem? hfound).unique hnumber)

/-- Every operator that is not followed well is a breach. -/
lemma exists_operatorBreach (hoperator : OperatorAt tokens place)
    (hfollowed : ¬ FollowedWell tokens place) :
    ∃ rejection, OperatorBreach tokens place rejection := by
  have hlt := hoperator.lt_length
  cases hnext : tokens[place + 1]? with
  | none =>
    have hend := List.getElem?_eq_none_iff.mp hnext
    exact ⟨_, .last hoperator (by omega)⟩
  | some next =>
    have hkind := kindAt_of_getElem? hnext
    by_cases hnormal : next.kind ∈ [Kind.plus, .multiply, .divide]
    · exact ⟨_, .operatorNext hoperator hnext hnormal⟩
    by_cases hminus : next.kind = .minus
    · cases hfound : tokens[place + 2]? with
      | none =>
        have hend := List.getElem?_eq_none_iff.mp hfound
        have hinside := hkind.lt_length
        exact ⟨_, .minusLast hoperator (hminus ▸ hkind) (by omega)⟩
      | some found =>
        refine ⟨_, .noNumber hoperator (hminus ▸ hkind) hfound ?_⟩
        intro hnumber
        apply hfollowed
        exact ⟨next.kind, hkind, hnormal, fun _ => hnumber ▸ kindAt_of_getElem? hfound⟩
    · have hwell : FollowedWell tokens place :=
        ⟨next.kind, hkind, hnormal, fun h => absurd h hminus⟩
      exact absurd hwell hfollowed

/-- The operators that are not followed well are the breaches. -/
lemma exists_operatorBreach_iff :
    (∃ rejection, OperatorBreach tokens place rejection) ↔
      OperatorAt tokens place ∧ ¬ FollowedWell tokens place := by
  constructor
  · rintro ⟨rejection, hbreach⟩
    exact ⟨hbreach.operatorAt, hbreach.not_followedWell⟩
  · rintro ⟨hoperator, hfollowed⟩
    exact exists_operatorBreach hoperator hfollowed

/-- A breach is a fault of operators. -/
lemma OperatorBreach.fault_eq {rejection : Rejection} (h : OperatorBreach tokens place rejection) :
    rejection.fault = .operatorInvalid := by
  cases h <;> rfl

/-- A place that is no operator, or one that is followed well, can be passed over. -/
lemma FindsFirst.skipOperator {verdict : Except Rejection Unit}
    (h : FindsFirst (OperatorBreach tokens) (place + 1) verdict)
    (hkept : OperatorAt tokens place → FollowedWell tokens place) :
    FindsFirst (OperatorBreach tokens) place verdict := by
  apply h.skip
  intro rejection hbreach
  exact hbreach.not_followedWell (hkept hbreach.operatorAt)

/-- The scan finds the first operator that is not followed well, from wherever it begins. -/
theorem findsFirst_operatorsFrom (hdrop : tokens.drop place = rest) :
    FindsFirst (OperatorBreach tokens) place (operatorsFrom place rest) := by
  fun_induction operatorsFrom place rest with
  | case1 place =>
    apply FindsFirst.kept
    intro later rejection hle hbreach
    have hlt := hbreach.operatorAt.lt_length
    have hlength := List.drop_eq_nil_iff.mp hdrop
    omega
  | case2 place token hoperator =>
    apply FindsFirst.here
    exact .last ((operatorAt_of_drop hdrop).mpr hoperator) (length_of_drop hdrop)
  | case3 place token hoperator =>
    apply FindsFirst.kept
    intro later rejection hle hbreach
    have hlt := hbreach.operatorAt.lt_length
    rw [length_of_drop hdrop, List.length_nil] at hlt
    obtain rfl : place = later := by omega
    exact hoperator ((operatorAt_of_drop hdrop).mp hbreach.operatorAt)
  | case4 place token next rest hoperator ih =>
    apply (ih (drop_succ_of_drop hdrop)).skipOperator
    intro h
    rw [operatorAt_of_drop hdrop] at h
    simp [h] at hoperator
  | case5 place token next rest hoperator hnormal =>
    have hhere : OperatorAt tokens place := by simpa [operatorAt_of_drop hdrop] using hoperator
    have hnext := getElem?_of_drop (drop_succ_of_drop hdrop)
    exact .here (.operatorNext hhere hnext (isNormalOperator_iff_mem.mp hnormal))
  | case6 place token next hoperator hnormal hminus =>
    have hhere : OperatorAt tokens place := by simpa [operatorAt_of_drop hdrop] using hoperator
    have hnext := kindAt_of_drop_self (drop_succ_of_drop hdrop)
    rw [hminus] at hnext
    exact .here (.minusLast hhere hnext (length_of_drop hdrop))
  | case7 place token next hoperator hnormal hminus operand rest hnumber ih =>
    have hdrop₁ := drop_succ_of_drop hdrop
    have hdrop₂ := drop_succ_of_drop hdrop₁
    have hnext := kindAt_of_drop_self hdrop₁
    have hoperand := kindAt_of_drop_self hdrop₂
    rw [hminus] at hnext
    have hkind : operand.kind = .number := by simpa [Kind.isNumber] using hnumber
    rw [hkind] at hoperand
    -- the operator is followed by `-` and a number, `-` by the number, and that is no operator
    apply FindsFirst.skipOperator _ fun _ => ⟨.minus, hnext, by decide, fun _ => hoperand⟩
    apply FindsFirst.skipOperator _ fun _ => ⟨.number, hoperand, by decide, nofun⟩
    apply (ih (drop_succ_of_drop hdrop₂)).skipOperator
    intro h
    rw [operatorAt_of_drop hdrop₂, hkind] at h
    cases h
  | case8 place token next hoperator hnormal hminus operand rest hnumber =>
    have hhere : OperatorAt tokens place := by simpa [operatorAt_of_drop hdrop] using hoperator
    have hdrop₁ := drop_succ_of_drop hdrop
    have hnext := kindAt_of_drop_self hdrop₁
    rw [hminus] at hnext
    have hfound := getElem?_of_drop (drop_succ_of_drop hdrop₁)
    exact .here (.noNumber hhere hnext hfound (by simpa [Kind.isNumber] using hnumber))
  | case9 place token next rest hoperator hnormal hminus ih =>
    have hdrop₁ := drop_succ_of_drop hdrop
    have hnext := kindAt_of_drop_self hdrop₁
    have hother := mt isNormalOperator_iff_mem.mpr hnormal
    -- the operator is followed by what is no operator
    apply FindsFirst.skipOperator _ fun _ => ⟨next.kind, hnext, hother, fun h => absurd h hminus⟩
    apply (ih (drop_succ_of_drop hdrop₁)).skipOperator
    intro h
    rw [operatorAt_of_drop hdrop₁] at h
    simp [Kind.isOperator, hnormal, hminus] at h

/-- The whole stream is scanned from its first place. -/
lemma findsFirst_checkOperators (tokens : List Token) :
    FindsFirst (OperatorBreach tokens) 0 (checkOperators tokens) :=
  findsFirst_operatorsFrom List.drop_zero

/-- A scan of operators succeeds when each from its beginning on is followed well. -/
lemma operatorsFrom_drop_eq_ok_iff (tokens : List Token) (start : Nat) :
    operatorsFrom start (tokens.drop start) = .ok () ↔
      ∀ place, start ≤ place → OperatorAt tokens place → FollowedWell tokens place := by
  rw [(findsFirst_operatorsFrom rfl).eq_ok_iff]
  simp only [exists_operatorBreach_iff, not_and, not_not]

/-- The operators of a stream keep the rule when each is followed well. -/
lemma checkOperators_eq_ok_iff_places (tokens : List Token) :
    checkOperators tokens = .ok () ↔
      ∀ place, OperatorAt tokens place → FollowedWell tokens place := by
  simpa [checkOperators] using operatorsFrom_drop_eq_ok_iff tokens 0

end Operators

/-- The rule on operators can be tried at each operator by itself: behind it stands a token that is
not `+`, `*` or `/`, and if that is `-`, a number comes next.  A stream in which this fails anywhere
is rejected for its operators.  What the scan passes over makes no difference: from wherever it
begins, it succeeds when each operator from there on is followed well. -/
theorem operators_judged_in_place (tokens : List Token) :
    (checkOperators tokens = .ok () ↔
      ∀ place, OperatorAt tokens place → FollowedWell tokens place) ∧
    (Blames .operatorInvalid (checkOperators tokens) ↔
      ∃ place, OperatorAt tokens place ∧ ¬ FollowedWell tokens place) ∧
    ∀ start, (operatorsFrom start (tokens.drop start) = .ok () ↔
      ∀ place, start ≤ place → OperatorAt tokens place → FollowedWell tokens place) := by
  have hall := checkOperators_eq_ok_iff_places tokens
  refine ⟨hall, ?_, operatorsFrom_drop_eq_ok_iff tokens⟩
  rw [(findsFirst_checkOperators tokens).blames_iff fun _ _ hbreach => hbreach.fault_eq, Ne, hall]
  simp only [not_forall, exists_prop]

/-- In `2 - - - 1` the first sign is not followed well.  A scan that begins at the second one has
nothing to object to. -/
example :
    let tokens : List Token :=
      [⟨.number, "2"⟩, ⟨.minus, "-"⟩, ⟨.minus, "-"⟩, ⟨.minus, "-"⟩, ⟨.number, "1"⟩]
    checkOperators tokens = .error (.minusWithoutNumber 3 ⟨.minus, "-"⟩) ∧
      operatorsFrom 2 (tokens.drop 2) = .ok () := ⟨rfl, rfl⟩

/-! ### Points -/

/-- A point stands at a place that is neither the first nor the last. -/
def PointInside (tokens : List Token) (place : Nat) : Prop :=
  KindAt tokens place .point ∧ 1 ≤ place ∧ place + 2 ≤ tokens.length

/-- Numbers stand on both sides of a place. -/
def NumbersAround (tokens : List Token) (place : Nat) : Prop :=
  KindAt tokens (place - 1) .number ∧ KindAt tokens (place + 1) .number

/-- A point strictly inside a stream lacks a number on some side, and this is what it is rejected
with. -/
inductive PointBreach (tokens : List Token) (place : Nat) : Rejection → Prop
  | stray (hinside : PointInside tokens place) (hnumbers : ¬ NumbersAround tokens place) :
      PointBreach tokens place (.strayPoint place)

section Points

variable {tokens rest : List Token} {place index : Nat}

/-- The scan finds the first point inside that lacks a number on some side, from wherever it
begins. -/
theorem findsFirst_pointsFrom (hdrop : tokens.drop place = rest) (hindex : index = place + 1) :
    FindsFirst (PointBreach tokens) index (pointsFrom index rest) := by
  fun_induction pointsFrom index rest generalizing place with
  | case1 index before token after rest hpoint hnumbers ih =>
    subst hindex
    have hdrop₁ := drop_succ_of_drop hdrop
    have hdrop₂ := drop_succ_of_drop hdrop₁
    have ⟨hbefore, hafter⟩ : before.kind = .number ∧ after.kind = .number := by
      simpa [Kind.isNumber] using hnumbers
    have hleft := kindAt_of_drop_self hdrop
    have hright := kindAt_of_drop_self hdrop₂
    rw [hbefore] at hleft
    rw [hafter] at hright
    -- the point has its numbers, and the second of them is no point
    apply FindsFirst.skip _ fun _ ⟨_, hnumbers⟩ => hnumbers ⟨hleft, hright⟩
    apply FindsFirst.skip (ih hdrop₂ rfl)
    rintro _ ⟨⟨hkind, -⟩, -⟩
    exact absurd (hkind.unique hright) (by decide)
  | case2 index before token after rest hpoint hnumbers =>
    subst hindex
    have hdrop₁ := drop_succ_of_drop hdrop
    have hkind := kindAt_of_drop_self hdrop₁
    rw [hpoint] at hkind
    have hlength := length_of_drop hdrop₁
    rw [List.length_cons] at hlength
    refine .here (.stray ⟨hkind, Nat.le_add_left 1 place, by omega⟩ ?_)
    rintro ⟨hleft, hright⟩
    rw [Nat.add_sub_cancel, kindAt_of_drop hdrop] at hleft
    rw [kindAt_of_drop (drop_succ_of_drop hdrop₁)] at hright
    simp [hleft, hright, Kind.isNumber] at hnumbers
  | case3 index before token after rest hpoint ih =>
    subst hindex
    have hdrop₁ := drop_succ_of_drop hdrop
    apply FindsFirst.skip (ih hdrop₁ rfl)
    rintro _ ⟨⟨hkind, -⟩, -⟩
    exact hpoint ((kindAt_of_drop hdrop₁ _).mp hkind)
  | case4 rest index hshort =>
    subst hindex
    apply FindsFirst.kept
    rintro later _ hle ⟨⟨-, -, hinside⟩, -⟩
    have hlength := congrArg List.length hdrop
    rw [List.length_drop] at hlength
    match rest with
    | [] | [_] | [_, _] =>
      simp only [List.length_cons, List.length_nil] at hlength
      omega
    | before :: token :: after :: rest => exact hshort before token after rest rfl

/-- The whole stream is scanned from its second place. -/
lemma findsFirst_checkPoints (tokens : List Token) :
    FindsFirst (PointBreach tokens) 1 (checkPoints tokens) :=
  findsFirst_pointsFrom List.drop_zero rfl

/-- The points inside without numbers on both sides are the breaches. -/
lemma exists_pointBreach_iff :
    (∃ rejection, PointBreach tokens place rejection) ↔
      PointInside tokens place ∧ ¬ NumbersAround tokens place := by
  constructor
  · rintro ⟨_, ⟨hinside, hnumbers⟩⟩
    exact ⟨hinside, hnumbers⟩
  · rintro ⟨hinside, hnumbers⟩
    exact ⟨_, .stray hinside hnumbers⟩

/-- A breach is a fault of points. -/
lemma PointBreach.fault_eq {rejection : Rejection} (h : PointBreach tokens place rejection) :
    rejection.fault = .dotInvalid := by
  cases h
  rfl

/-- A scan of points succeeds when each from its beginning on that is inside has its numbers. -/
lemma pointsFrom_drop_eq_ok_iff (tokens : List Token) (start : Nat) :
    pointsFrom (start + 1) (tokens.drop start) = .ok () ↔
      ∀ place, start + 1 ≤ place → PointInside tokens place → NumbersAround tokens place := by
  rw [(findsFirst_pointsFrom rfl rfl).eq_ok_iff]
  simp only [exists_pointBreach_iff, not_and, not_not]

/-- The points of a stream keep the rule when those inside have their numbers. -/
lemma checkPoints_eq_ok_iff_places (tokens : List Token) :
    checkPoints tokens = .ok () ↔
      ∀ place, PointInside tokens place → NumbersAround tokens place := by
  have hfrom : checkPoints tokens = .ok () ↔
      ∀ place, 1 ≤ place → PointInside tokens place → NumbersAround tokens place := by
    simpa [checkPoints] using pointsFrom_drop_eq_ok_iff tokens 0
  rw [hfrom]
  exact forall_congr' fun place => ⟨fun h hinside => h hinside.2.1 hinside, fun h _ => h⟩

end Points

/-- The rule on points can be tried at each place strictly inside the stream by itself: a point
there has numbers on both sides.  A stream in which this fails anywhere is rejected for its points,
and a point at either end is no reason to.  What the scan passes over makes no difference: from
wherever it begins, it succeeds when no point inside from there on lacks a number. -/
theorem points_judged_inside (tokens : List Token) :
    (checkPoints tokens = .ok () ↔
      ∀ place, PointInside tokens place → NumbersAround tokens place) ∧
    (Blames .dotInvalid (checkPoints tokens) ↔
      ∃ place, PointInside tokens place ∧ ¬ NumbersAround tokens place) ∧
    ∀ start, (pointsFrom (start + 1) (tokens.drop start) = .ok () ↔
      ∀ place, start + 1 ≤ place → PointInside tokens place → NumbersAround tokens place) := by
  have hall := checkPoints_eq_ok_iff_places tokens
  refine ⟨hall, ?_, pointsFrom_drop_eq_ok_iff tokens⟩
  rw [(findsFirst_checkPoints tokens).blames_iff fun _ _ hbreach => hbreach.fault_eq, Ne, hall]
  simp only [not_forall, exists_prop]

end ArithExpr.Validity
