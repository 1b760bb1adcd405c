import ArithExpr.Number.Shortest
import Mathlib.Order.Monotone.Basic
import Mathlib.Tactic.Common

/-!
# Rounding to the nearest double

The magnitudes of the finite doubles increase with their codes (`units_strictMono`), and
`codeBelow` finds the last one that does not exceed an amount.  From there, comparing with
the middle to the next magnitude decides the nearest one.

The main statement is `toDouble_eq_of_rounds`: a decimal in the interval of a code is read
as the double with that code.  The interval is closed exactly for even codes, which is where
a decimal half-way between two doubles goes.
-/

namespace ArithExpr.Double

/-! ### Magnitudes increase with codes -/

/-- The codes in steps of the same size: behind `steps` runs, the code numbered `m` has `m` steps as
its magnitude.  The last code of a run and the first of the next one agree on this. -/
lemma units_run {steps m : Nat} (hlow : steps = 0 ∨ runLength ≤ m) (hhigh : m ≤ 2 * runLength) :
    units (steps * runLength + m) = m * Nat.pow 2 steps := by
  have hpos : 0 < runLength := by decide
  rcases Nat.lt_or_eq_of_le hhigh with hlt | rfl
  · have hquot : (steps * runLength + m) / runLength - 1 = steps := by
      rw [Nat.mul_comm steps, Nat.mul_add_div hpos]
      have hup : m / runLength < 2 := (Nat.div_lt_iff_lt_mul hpos).mpr hlt
      rcases hlow with rfl | hlow
      · omega
      · have hdown : 1 ≤ m / runLength := (Nat.one_le_div_iff hpos).mpr hlow
        omega
    rw [units, hquot, Nat.add_sub_cancel_left]
  · have hquot : (steps * runLength + 2 * runLength) / runLength - 1 = steps + 1 := by
      rw [← Nat.add_mul, Nat.mul_div_cancel _ hpos]
      rfl
    have hrest : steps * runLength + 2 * runLength - (steps + 1) * runLength = runLength := by
      rw [← Nat.add_mul, ← Nat.sub_mul, Nat.add_sub_add_left, Nat.one_mul]
    rw [units, hquot, hrest, Nat.mul_comm 2, Nat.mul_assoc]
    congr 1
    exact Nat.pow_succ'

/-- Every code lies behind some runs, in the first two of what follows. -/
lemma exists_run (code : Nat) :
    ∃ steps m, code = steps * runLength + m ∧ (steps = 0 ∨ runLength ≤ m) ∧ m < 2 * runLength := by
  have hpos : 0 < runLength := by decide
  have hdiv : runLength * (code / runLength) + code % runLength = code := Nat.div_add_mod _ _
  have hmod : code % runLength < runLength := Nat.mod_lt _ hpos
  rcases Nat.eq_zero_or_pos (code / runLength) with hzero | hquot
  · rw [hzero] at hdiv
    exact ⟨0, code, by omega, Or.inl rfl, by omega⟩
  · obtain ⟨steps, hsteps⟩ := Nat.exists_eq_add_of_le' hquot
    refine ⟨steps, runLength + code % runLength, ?_, Or.inr (Nat.le_add_right _ _), by omega⟩
    rw [hsteps, Nat.mul_comm, Nat.add_mul] at hdiv
    omega

/-- The next code has a greater magnitude. -/
lemma units_lt_units_succ (code : Nat) : units code < units (code + 1) := by
  obtain ⟨steps, m, rfl, hlow, hhigh⟩ := exists_run code
  rw [Nat.add_assoc, units_run hlow hhigh.le, units_run (by omega) hhigh]
  exact Nat.mul_lt_mul_of_pos_right (Nat.lt_succ_self m) (Nat.pow_pos (by decide))

/-- Magnitudes increase with codes. -/
theorem units_strictMono : StrictMono units :=
  strictMono_nat_of_lt_succ units_lt_units_succ

/-- The amount that `codeBelow` looks at lies in the runs that it goes to. -/
lemma codeBelow_run (amount : Nat) :
    (amount.log2 - 52 = 0 ∨ runLength ≤ amount / Nat.pow 2 (amount.log2 - 52)) ∧
      amount / Nat.pow 2 (amount.log2 - 52) < 2 * runLength := by
  generalize hsteps : amount.log2 - 52 = steps
  have hpos : 0 < Nat.pow 2 steps := Nat.pow_pos (by decide)
  constructor
  · rcases Nat.eq_zero_or_pos steps with hzero | hsome
    · exact Or.inl hzero
    · have hne : amount ≠ 0 := by
        rintro rfl
        simp at hsteps
        omega
      have hlog : amount.log2 = 52 + steps := by omega
      have hle : Nat.pow 2 (52 + steps) ≤ amount := hlog ▸ Nat.log2_self_le hne
      refine Or.inr ((Nat.le_div_iff_mul_le hpos).mpr ?_)
      exact (Nat.pow_add 2 52 steps).symm.trans_le hle
  · have hlt : amount < Nat.pow 2 (amount.log2 + 1) := Nat.lt_log2_self
    have hle : Nat.pow 2 (amount.log2 + 1) ≤ Nat.pow 2 (53 + steps) :=
      Nat.pow_le_pow_right (by decide) (by omega)
    refine (Nat.div_lt_iff_lt_mul hpos).mpr ?_
    exact (hlt.trans_le hle).trans_eq (Nat.pow_add 2 53 steps)

/-- `codeBelow` finds the last code whose magnitude does not exceed an amount. -/
theorem codeBelow_spec (amount : Nat) :
    units (codeBelow amount) ≤ amount ∧ amount < units (codeBelow amount + 1) := by
  obtain ⟨hlow, hhigh⟩ := codeBelow_run amount
  have hpos : 0 < Nat.pow 2 (amount.log2 - 52) := Nat.pow_pos (by decide)
  rw [codeBelow, Nat.add_assoc, units_run hlow hhigh.le, units_run (by omega) hhigh]
  refine ⟨Nat.div_mul_le_self _ _, ?_⟩
  exact (Nat.div_lt_iff_lt_mul hpos).mp (Nat.lt_succ_self _)

/-! ### The nearest code -/

/-- A fraction `num / den` lies in the interval of the reals that round to a code; `value` is twice
`num`, in units of `2 ^ -1074`. -/
structure InInterval (code value den : Nat) : Prop where
  lower : lowerEnd code * den ≤ value
  upper : value ≤ upperEnd code * den
  even_of_end : value = lowerEnd code * den ∨ value = upperEnd code * den → code % 2 = 0

/-- The test on a decimal decides whether it lies in the interval of a code. -/
lemma rounds_iff (code : Nat) (d : Decimal) :
    rounds code d = true ↔
      InInterval code (d.coefficient * Nat.pow 10 d.exponent.toNat * Nat.pow 2 1075)
        (Nat.pow 10 (-d.exponent).toNat) := by
  unfold rounds
  dsimp only
  generalize d.coefficient * Nat.pow 10 d.exponent.toNat * Nat.pow 2 1075 = value
  generalize Nat.pow 10 (-d.exponent).toNat = den
  split
  · next heven =>
    rw [Bool.and_eq_true, decide_eq_true_eq, decide_eq_true_eq]
    exact ⟨fun h => ⟨h.1, h.2, fun _ => heven⟩, fun h => ⟨h.lower, h.upper⟩⟩
  · next hodd =>
    rw [Bool.and_eq_true, decide_eq_true_eq, decide_eq_true_eq]
    constructor
    · rintro ⟨hlower, hupper⟩
      refine ⟨hlower.le, hupper.le, ?_⟩
      rintro (heq | heq) <;> omega
    · rintro ⟨hlower, hupper, heven⟩
      refine ⟨hlower.lt_of_ne fun heq => ?_, hupper.lt_of_ne fun heq => ?_⟩
      · exact hodd (heven (Or.inl heq.symm))
      · exact hodd (heven (Or.inr heq))

/-- Amounts in half units are twice the amounts in units. -/
lemma pow_units_succ : Nat.pow 2 1075 = 2 * Nat.pow 2 1074 := by
  decide +kernel

section Nearest

variable {code num den : Nat}

/-- The last code whose magnitude does not exceed a fraction is that of the interval in which the
fraction lies, or the one in front of it. -/
lemma codeBelow_of_inInterval (hden : 0 < den) (h : InInterval code (num * Nat.pow 2 1075) den) :
    codeBelow (num * Nat.pow 2 1074 / den) = code ∨
      codeBelow (num * Nat.pow 2 1074 / den) + 1 = code := by
  rw [pow_units_succ] at h
  generalize Nat.pow 2 1074 = scale at h ⊢
  rw [Nat.mul_left_comm] at h
  generalize num * scale = amount at h ⊢
  obtain ⟨hbelow, habove⟩ := codeBelow_spec (amount / den)
  generalize codeBelow (amount / den) = found at hbelow habove ⊢
  rw [Nat.le_div_iff_mul_le hden] at hbelow
  rw [Nat.div_lt_iff_lt_mul hden] at habove
  have hle : found ≤ code := by
    by_contra hgt
    have hunits : units (code + 1) ≤ units found :=
      units_strictMono.monotone (Nat.lt_of_not_le hgt)
    have hstep : units code * den < units (code + 1) * den :=
      Nat.mul_lt_mul_of_pos_right (units_lt_units_succ code) hden
    have hfound : units (code + 1) * den ≤ units found * den := Nat.mul_le_mul_right den hunits
    have hupper := h.upper
    rw [upperEnd, Nat.add_mul] at hupper
    omega
  have hge : code ≤ found + 1 := by
    by_contra hlt
    have hunits : units (found + 1) ≤ units (code - 1) :=
      units_strictMono.monotone (by omega)
    have hstep : units (code - 1) * den ≤ units code * den :=
      Nat.mul_le_mul_right den (units_strictMono.monotone (Nat.sub_le code 1))
    have hfound : units (found + 1) * den ≤ units (code - 1) * den :=
      Nat.mul_le_mul_right den hunits
    have hlower := h.lower
    rw [lowerEnd, Nat.add_mul] at hlower
    omega
  omega

/-- A fraction in the interval of a code is nearest to it. -/
theorem nearestCode_of_inInterval (hden : 0 < den)
    (h : InInterval code (num * Nat.pow 2 1075) den) : nearestCode num den = code := by
  obtain ⟨hlower, hupper, heven⟩ := h
  unfold nearestCode
  dsimp only
  rcases codeBelow_of_inInterval hden ⟨hlower, hupper, heven⟩ with hfound | hfound
  · rw [hfound]
    rw [upperEnd] at hupper heven
    rcases Nat.lt_or_eq_of_le hupper with hlt | heq
    · rw [if_pos hlt]
    · rw [if_neg (Nat.not_lt.mpr heq.ge), if_neg (Nat.not_lt.mpr heq.le),
        if_pos (heven (Or.inr heq))]
  · generalize codeBelow (num * Nat.pow 2 1074 / den) = found at hfound
    obtain rfl := hfound
    rw [lowerEnd, Nat.add_sub_cancel] at hlower heven
    rw [if_neg (Nat.not_lt.mpr hlower)]
    rcases Nat.lt_or_eq_of_le hlower with hlt | heq
    · rw [if_pos hlt]
    · have hodd : (found + 1) % 2 = 0 := heven (Or.inl heq.symm)
      rw [if_neg (Nat.not_lt.mpr heq.ge), if_neg (by omega)]

end Nearest

/-! ### Reading decimals -/

section Decimals

variable {code : Nat} {d : Decimal}

/-- A positive code has a positive magnitude. -/
lemma units_pos (hcode : 0 < code) : 0 < units code := by
  have hlt : units 0 < units code := units_strictMono hcode
  rwa [units_zero] at hlt

/-- Zero lies in the interval of code zero only. -/
lemma eq_zero_of_inInterval_zero {den : Nat} (hden : 0 < den) (h : InInterval code 0 den) :
    code = 0 := by
  by_contra hne
  have hunits : 0 < units code := units_pos (Nat.pos_of_ne_zero hne)
  have hend : 0 < lowerEnd code * den := Nat.mul_pos (Nat.add_pos_right _ hunits) hden
  exact absurd h.lower (Nat.not_le.mpr hend)

/-- The intervals of finite doubles end below `10 ^ 310`. -/
lemma upperEnd_lt (hcode : code < finiteCodes) :
    upperEnd code < Nat.pow 100 155 * Nat.pow 2 1075 := by
  have hself : units code < units finiteCodes := units_strictMono hcode
  have hnext : units (code + 1) ≤ units finiteCodes := units_strictMono.monotone hcode
  have hgreatest : units finiteCodes + units finiteCodes ≤ Nat.pow 100 155 * Nat.pow 2 1075 := by
    decide +kernel
  exact (Nat.add_lt_add_of_lt_of_le hself hnext).trans_le hgreatest

/-- A decimal other than zero that is in the interval of a finite double has no power of ten above
`10 ^ 309`. -/
lemma exponent_le_of_rounds (hcode : code < finiteCodes) (hd : d.coefficient ≠ 0)
    (h : rounds code d = true) : d.exponent.toNat ≤ 309 := by
  by_contra hup
  have hdown : (-d.exponent).toNat = 0 := by omega
  have hupper := ((rounds_iff code d).mp h).upper
  have hend := upperEnd_lt hcode
  rw [hdown] at hupper
  generalize d.exponent.toNat = up at hup hupper
  generalize Nat.pow 2 1075 = half at hupper hend
  have hpow : Nat.pow 100 155 ≤ Nat.pow 10 up := calc
    Nat.pow 100 155 ≤ Nat.pow 100 (up / 2) := Nat.pow_le_pow_right (by decide) (by omega)
    _ = Nat.pow 10 (2 * (up / 2)) := (Nat.pow_mul 10 2 (up / 2)).symm
    _ ≤ Nat.pow 10 up := Nat.pow_le_pow_right (by decide) (by omega)
  have hvalue : Nat.pow 100 155 * half ≤ d.coefficient * Nat.pow 10 up * half := by
    refine Nat.mul_le_mul_right half (hpow.trans ?_)
    exact Nat.le_mul_of_pos_left _ (Nat.pos_of_ne_zero hd)
  have hone : upperEnd code * Nat.pow 10 0 = upperEnd code := Nat.mul_one _
  exact absurd (hvalue.trans (hupper.trans_eq hone)) (Nat.not_le.mpr hend)

/-- A decimal in the interval of a positive code is not so small that its power of ten would not be
computed. -/
lemma not_log2_lt_of_rounds (hcode : 0 < code) (h : rounds code d = true) :
    ¬ d.coefficient.log2 < 3 * ((-d.exponent).toNat - 400) := by
  intro hlog
  have hup : d.exponent.toNat = 0 := by omega
  have hlower := ((rounds_iff code d).mp h).lower
  have hhalf : Nat.pow 2 1075 ≤ Nat.pow 8 400 := by decide +kernel
  obtain ⟨extra, hdown⟩ : ∃ extra, (-d.exponent).toNat = extra + 400 :=
    ⟨(-d.exponent).toNat - 400, by omega⟩
  have hpow : ∀ n, 0 < Nat.pow 8 n ∧ Nat.pow 8 (extra + n) = Nat.pow 8 extra * Nat.pow 8 n :=
    fun n => ⟨Nat.pow_pos (by decide), Nat.pow_add 8 extra n⟩
  obtain ⟨hbound, hsplit⟩ := hpow 400
  rw [hup, hdown] at hlower
  rw [hdown] at hlog
  generalize Nat.pow 2 1075 = half at hlower hhalf
  generalize Nat.pow 8 400 = bound at hhalf hbound hsplit
  have hcoefficient : d.coefficient < Nat.pow 8 extra := by
    have hlt : d.coefficient < Nat.pow 2 (d.coefficient.log2 + 1) := Nat.lt_log2_self
    have hle : Nat.pow 2 (d.coefficient.log2 + 1) ≤ Nat.pow 2 (3 * extra) :=
      Nat.pow_le_pow_right (by decide) (by omega)
    exact (hlt.trans_le hle).trans_eq (Nat.pow_mul 2 3 extra)
  have hend : Nat.pow 10 (extra + 400) ≤ lowerEnd code * Nat.pow 10 (extra + 400) :=
    Nat.le_mul_of_pos_left _ (Nat.add_pos_right _ (units_pos hcode))
  have hvalue : d.coefficient * Nat.pow 10 0 * half < Nat.pow 10 (extra + 400) := calc
    d.coefficient * Nat.pow 10 0 * half = d.coefficient * half := by
        rw [show Nat.pow 10 0 = 1 from rfl, Nat.mul_one]
    _ ≤ d.coefficient * bound := Nat.mul_le_mul_left _ hhalf
    _ < Nat.pow 8 extra * bound := Nat.mul_lt_mul_of_pos_right hcoefficient hbound
    _ = Nat.pow 8 (extra + 400) := hsplit.symm
    _ ≤ Nat.pow 10 (extra + 400) := Nat.pow_le_pow_left (by decide) _
  exact absurd (hend.trans hlower) (Nat.not_le.mpr hvalue)

/-- A decimal in the interval of a finite code is read as the double with that code. -/
theorem toDouble_eq_of_rounds (hcode : code < finiteCodes) (h : rounds code d = true)
    (negative : Bool) : d.toDouble negative = .finite negative ⟨code, hcode⟩ := by
  have hinterval := (rounds_iff code d).mp h
  have hden : 0 < Nat.pow 10 (-d.exponent).toNat := Nat.pow_pos (by decide)
  have hfinite : ofCode negative code = .finite negative ⟨code, hcode⟩ := dif_pos hcode
  have hzero : d.coefficient = 0 → code = 0 := by
    intro hd
    rw [hd] at hinterval
    generalize Nat.pow 2 1075 = half at hinterval
    rw [Nat.zero_mul, Nat.zero_mul] at hinterval
    exact eq_zero_of_inInterval_zero hden hinterval
  rw [← hfinite]
  unfold Decimal.toDouble
  dsimp only
  by_cases hd : d.coefficient = 0
  · rw [if_pos hd, hzero hd]
  · rw [if_neg hd, if_neg (Nat.not_lt.mpr (exponent_le_of_rounds hcode hd h))]
    split
    · next hsmall =>
      rcases Nat.eq_zero_or_pos code with hcode | hcode
      · rw [hcode]
      · exact absurd hsmall (not_log2_lt_of_rounds hcode h)
    · rw [ofRatio, nearestCode_of_inInterval hden hinterval]

end Decimals

end ArithExpr.Double
