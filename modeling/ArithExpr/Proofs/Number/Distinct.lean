import ArithExpr.Proofs.Number.ReadBack

/-!
# Different numbers are written differently

In every layout the text of a finite double with no sign tells which double it is
(`Layout.write_injective`), whether or not it can be read as a numeral.

A text without an exponent stands for one decimal, and a text with one for its digits
and its leading place, so two decimals that are written alike lie in the same intervals
(`Layout.rounds_eq_of_setDecimal_eq`).  The shortest decimal of a double lies in the
interval of this double and in no other.
-/

namespace ArithExpr

open Numeral Text

namespace Double

/-- A fraction in an interval stays there when both its parts are multiplied. -/
lemma inInterval_mul_iff {code value den factor : Nat} (hfactor : 0 < factor) :
    InInterval code (value * factor) (den * factor) ↔ InInterval code value den := by
  have hle {m n : Nat} : m * factor ≤ n * factor ↔ m ≤ n := Nat.mul_le_mul_right_iff hfactor
  have heq {m n : Nat} : m * factor = n * factor ↔ m = n := Nat.mul_left_inj hfactor.ne'
  constructor
  · rintro ⟨hlower, hupper, heven⟩
    rw [← Nat.mul_assoc] at hlower hupper heven
    rw [← Nat.mul_assoc] at heven
    exact ⟨hle.mp hlower, hle.mp hupper, fun h => heven (h.imp heq.mpr heq.mpr)⟩
  · rintro ⟨hlower, hupper, heven⟩
    refine ⟨?_, ?_, fun h => heven ?_⟩
    · rw [← Nat.mul_assoc]
      exact hle.mpr hlower
    · rw [← Nat.mul_assoc]
      exact hle.mpr hupper
    · rw [← Nat.mul_assoc, ← Nat.mul_assoc] at h
      exact h.imp heq.mp heq.mp

/-- Tenths of tenfold a whole number lie where the number lies. -/
lemma rounds_tenths (code whole : Nat) : rounds code ⟨whole * 10, -1⟩ = rounds code ⟨whole, 0⟩ := by
  have hten : 0 < 10 := by decide
  have hup : (-1 : Int).toNat = 0 := rfl
  have hdown : (- -1 : Int).toNat = 1 := rfl
  have hone : Nat.pow 10 1 = Nat.pow 10 0 * 10 := rfl
  have hvalue : whole * 10 * Nat.pow 10 0 * Nat.pow 2 1075 =
      whole * Nat.pow 10 0 * Nat.pow 2 1075 * 10 := by
    generalize Nat.pow 2 1075 = half
    rw [Nat.mul_right_comm whole, Nat.mul_right_comm _ 10]
  rw [Bool.eq_iff_iff, rounds_iff, rounds_iff]
  dsimp only
  rw [hup, hdown, hone, hvalue]
  exact inInterval_mul_iff hten

end Double

namespace Layout

section Positional

/-- Layouts without an exponent differ in the zero behind the point of a whole number. -/
lemma setPositional_eq (layout : Layout) (digits : List Char) (exponent : Int) :
    layout.setPositional digits exponent = plain.setPositional digits exponent ++
      (if 0 ≤ exponent ∧ layout.keepsPoint = true then ['.', '0'] else []) := by
  unfold setPositional
  by_cases h : 0 ≤ exponent
  · by_cases hkeeps : layout.keepsPoint = true <;> simp [h, hkeeps, plain]
  · simp [h]

/-- A zero behind the point of a whole number is one more digit, for a tenth. -/
lemma positional_point_zero {whole : List Char} (hwhole : IsDigitRun whole) :
    Positional (whole ++ ['.', '0']) ⟨ofDigits whole * 10, -1⟩ := by
  have hvalue : ofDigits (whole ++ ['0']) = ofDigits whole * 10 := ofDigits_append_zeros whole 1
  rw [← hvalue]
  exact .decimal hwhole ⟨List.cons_ne_nil _ _, by simp⟩

/-- Without an exponent a decimal is written in positional notation, as a decimal that lies in the
same intervals. -/
lemma exists_positional (layout : Layout) (d : Decimal) :
    ∃ d', Positional (layout.setPositional (Nat.toDigits 10 d.coefficient) d.exponent) d' ∧
      ∀ code, Double.rounds code d' = Double.rounds code d := by
  rw [setPositional_eq]
  by_cases h : 0 ≤ d.exponent ∧ layout.keepsPoint = true
  · rw [if_pos h]
    have hrun : IsDigitRun (Nat.toDigits 10 d.coefficient ++
        List.replicate d.exponent.toNat '0') :=
      (isDigitRun_toDigits _).append fun _ => isDigit_of_mem_zeros
    have htext : plain.setPositional (Nat.toDigits 10 d.coefficient) d.exponent =
        Nat.toDigits 10 d.coefficient ++ List.replicate d.exponent.toNat '0' := by
      rw [setPositional, if_pos h.1, plain]
      simp
    rw [htext]
    refine ⟨_, positional_point_zero hrun, fun code => ?_⟩
    have hexpanded : d.expanded = ⟨d.coefficient * Nat.pow 10 d.exponent.toNat, 0⟩ := by
      rw [Decimal.expanded, Int.min_eq_right h.1]
    rw [ofDigits_append_zeros, ofDigits_toDigits, Double.rounds_tenths, ← hexpanded,
      Double.rounds_expanded]
  · rw [if_neg h, List.append_nil]
    exact ⟨d.expanded, positional_setDecimal d, fun code => Double.rounds_expanded code d⟩

/-- A text in positional notation has nothing but digits and a point. -/
lemma isDigit_or_of_positional {text : List Char} {d : Decimal} (h : Positional text d) :
    ∀ c ∈ text, c.isDigit = true ∨ c = '.' := by
  intro c hc
  cases h with
  | whole hdigits => exact Or.inl (hdigits.2 c hc)
  | @decimal whole fraction hwhole hfraction =>
    rcases List.mem_append.mp hc with hc | hc
    · exact Or.inl (hwhole.2 c hc)
    · rcases List.mem_cons.mp hc with rfl | hc
      · exact Or.inr rfl
      · exact Or.inl (hfraction.2 c hc)

end Positional

/-! ### Exponents -/

section Scientific

variable {layout : Layout} {digits digits' : List Char} {lead lead' : Int}

/-- Digits with a point behind the first, if there are more. -/
def mantissa (digits : List Char) : List Char :=
  match digits with
  | first :: second :: rest => first :: '.' :: second :: rest
  | _ => digits

/-- The exponent behind its letter. -/
def exponentPart (layout : Layout) (lead : Int) : List Char :=
  (if lead < 0 then ['-'] else if layout.signsExponent then ['+'] else []) ++
    Nat.toDigits 10 lead.natAbs

lemma setScientific_eq (layout : Layout) (digits : List Char) (lead : Int) :
    layout.setScientific digits lead = mantissa digits ++ 'e' :: layout.exponentPart lead :=
  rfl

/-- A mantissa begins with the first digit. -/
lemma exists_mantissa_cons (c : Char) (rest : List Char) :
    ∃ behind, mantissa (c :: rest) = c :: behind := by
  cases rest with
  | nil => exact ⟨[], rfl⟩
  | cons second rest => exact ⟨'.' :: second :: rest, rfl⟩

/-- A mantissa has nothing but the digits and a point. -/
lemma mem_of_mem_mantissa {c : Char} (h : c ∈ mantissa digits) : c ∈ digits ∨ c = '.' := by
  unfold mantissa at h
  split at h
  · simp only [List.mem_cons] at h ⊢
    tauto
  · exact Or.inl h

/-- A mantissa without its point is its digits. -/
lemma filter_mantissa (h : ∀ c ∈ digits, c.isDigit = true) :
    (mantissa digits).filter Char.isDigit = digits := by
  have hself : digits.filter Char.isDigit = digits := List.filter_eq_self.mpr h
  unfold mantissa
  split
  · have hpoint : ¬ '.'.isDigit = true := by decide
    rw [List.filter_cons] at hself ⊢
    rw [List.filter_cons_of_neg hpoint]
    exact hself
  · exact hself

lemma toDigits_injective : Function.Injective (Nat.toDigits 10) := by
  intro n n' h
  rw [← ofDigits_toDigits n, h, ofDigits_toDigits]

/-- An exponent begins with a minus when it is negative. -/
lemma head?_exponentPart (layout : Layout) (lead : Int) :
    (layout.exponentPart lead).head? = some '-' ↔ lead < 0 := by
  unfold exponentPart
  by_cases hneg : lead < 0
  · simp [hneg]
  · rw [if_neg hneg]
    refine ⟨fun hminus => ?_, fun h => absurd h hneg⟩
    split at hminus
    · simp at hminus
    · obtain ⟨-, hdigits⟩ := isDigitRun_toDigits lead.natAbs
      exact absurd (hdigits '-' (List.mem_of_head? hminus)) (by decide)

/-- The text of an exponent tells which it is. -/
lemma exponentPart_inj (h : layout.exponentPart lead = layout.exponentPart lead') :
    lead = lead' := by
  have hsign : lead < 0 ↔ lead' < 0 := by
    rw [← head?_exponentPart layout, h, head?_exponentPart]
  have hdigits : Nat.toDigits 10 lead.natAbs = Nat.toDigits 10 lead'.natAbs := by
    unfold exponentPart at h
    simp only [hsign] at h
    exact List.append_cancel_left h
  have hsize := toDigits_injective hdigits
  omega

/-- A text with an exponent tells its digits and its exponent. -/
lemma setScientific_inj (hdigits : ∀ c ∈ digits, c.isDigit = true)
    (hdigits' : ∀ c ∈ digits', c.isDigit = true)
    (h : layout.setScientific digits lead = layout.setScientific digits' lead') :
    digits = digits' ∧ lead = lead' := by
  have hletter {digits : List Char} (hdigits : ∀ c ∈ digits, c.isDigit = true) :
      ∀ c ∈ mantissa digits, ¬ c = 'e' := by
    rintro c hc rfl
    rcases mem_of_mem_mantissa hc with hc | hc
    · exact absurd (hdigits _ hc) (by decide)
    · exact absurd hc (by decide)
  obtain ⟨hmantissa, hexponent⟩ :=
    Text.append_inj_of_stop (hletter hdigits) (hletter hdigits') (by simp) (by simp) h
  refine ⟨?_, exponentPart_inj (List.cons.inj hexponent).2⟩
  rw [← filter_mantissa hdigits, hmantissa, filter_mantissa hdigits']

end Scientific

/-! ### Texts of decimals -/

/-- The leading place of a decimal. -/
def leadOf (d : Decimal) : Int :=
  ((Nat.toDigits 10 d.coefficient).length : Int) + d.exponent - 1

/-- A decimal is written with an exponent or without one. -/
lemma setDecimal_eq_or (layout : Layout) (d : Decimal) :
    layout.setDecimal d = layout.setPositional (Nat.toDigits 10 d.coefficient) d.exponent ∨
      layout.setDecimal d = layout.setScientific (Nat.toDigits 10 d.coefficient) (leadOf d) := by
  unfold setDecimal
  dsimp only
  split
  · exact Or.inl rfl
  · split
    · exact Or.inl rfl
    · exact Or.inr rfl

section Texts

variable {layout : Layout} {d d' : Decimal}

/-- A text with an exponent is not one without. -/
lemma setScientific_ne_setPositional {digits : List Char} {lead : Int} :
    layout.setScientific digits lead ≠
      layout.setPositional (Nat.toDigits 10 d.coefficient) d.exponent := by
  intro h
  obtain ⟨found, hpositional, -⟩ := exists_positional layout d
  have hletter : 'e' ∈ layout.setScientific digits lead := by
    rw [setScientific_eq]
    exact List.mem_append_right _ List.mem_cons_self
  rcases isDigit_or_of_positional hpositional 'e' (h ▸ hletter) with hdigit | hpoint
  · exact absurd hdigit (by decide)
  · exact absurd hpoint (by decide)

/-- Decimals that are written alike lie in the same intervals. -/
theorem rounds_eq_of_setDecimal_eq (h : layout.setDecimal d = layout.setDecimal d') (code : Nat) :
    Double.rounds code d = Double.rounds code d' := by
  rcases setDecimal_eq_or layout d with hd | hd <;>
    rcases setDecimal_eq_or layout d' with hd' | hd' <;> rw [hd, hd'] at h
  · obtain ⟨found, hpositional, hrounds⟩ := exists_positional layout d
    obtain ⟨found', hpositional', hrounds'⟩ := exists_positional layout d'
    have hsame : found = found' := by
      have hfound := hpositional.decimal?_eq
      rw [h, hpositional'.decimal?_eq] at hfound
      exact (Option.some.inj hfound).symm
    rw [← hrounds, hsame, hrounds']
  · exact absurd h.symm setScientific_ne_setPositional
  · exact absurd h setScientific_ne_setPositional
  · obtain ⟨-, hdigits⟩ := isDigitRun_toDigits d.coefficient
    obtain ⟨-, hdigits'⟩ := isDigitRun_toDigits d'.coefficient
    obtain ⟨hsame, hlead⟩ := setScientific_inj hdigits hdigits' h
    have hcoefficient : d.coefficient = d'.coefficient := toDigits_injective hsame
    have hexponent : d.exponent = d'.exponent := by
      unfold leadOf at hlead
      rw [hsame] at hlead
      omega
    have hd : d = d' := by
      cases d
      cases d'
      exact congrArg₂ Decimal.mk hcoefficient hexponent
    rw [hd]

/-- The text of a decimal begins with a digit. -/
lemma exists_digit_setDecimal (layout : Layout) (d : Decimal) :
    ∃ c rest, layout.setDecimal d = c :: rest ∧ c.isDigit = true := by
  rcases setDecimal_eq_or layout d with h | h <;> rw [h]
  · obtain ⟨found, hpositional, -⟩ := exists_positional layout d
    exact hpositional.exists_digit
  · obtain ⟨hne, hdigits⟩ := isDigitRun_toDigits d.coefficient
    obtain ⟨c, rest, hcons⟩ := List.exists_cons_of_ne_nil hne
    obtain ⟨behind, hmantissa⟩ := exists_mantissa_cons c rest
    rw [hcons] at hdigits ⊢
    rw [setScientific_eq, hmantissa]
    exact ⟨c, _, rfl, hdigits c List.mem_cons_self⟩

/-- The text of a decimal is made of digits, a point, and the letter and the signs of exponents. -/
lemma mem_of_mem_setDecimal {c : Char} (h : c ∈ layout.setDecimal d) :
    c.isDigit = true ∨ c ∈ ['.', 'e', '+', '-'] := by
  rcases setDecimal_eq_or layout d with hset | hset <;> rw [hset] at h
  · obtain ⟨found, hpositional, -⟩ := exists_positional layout d
    exact (isDigit_or_of_positional hpositional c h).imp id (by rintro rfl; decide)
  · obtain ⟨-, hdigits⟩ := isDigitRun_toDigits d.coefficient
    obtain ⟨-, hlead⟩ := isDigitRun_toDigits (leadOf d).natAbs
    rw [setScientific_eq, List.mem_append, List.mem_cons, exponentPart, List.mem_append] at h
    rcases h with hmantissa | rfl | hsign | hdigit
    · exact (mem_of_mem_mantissa hmantissa).imp (hdigits c) (by rintro rfl; decide)
    · exact Or.inr (by decide)
    · refine Or.inr ?_
      split_ifs at hsign <;> simp_all
    · exact Or.inl (hlead c hdigit)

/-- Different doubles are written differently. -/
theorem write_injective (layout : Layout) :
    Function.Injective fun code => layout.write (.finite false code) := by
  intro code code' h
  have htexts : layout.setDecimal (Double.shortest layout.tie code) =
      layout.setDecimal (Double.shortest layout.tie code') := String.ofList_injective h
  have hrounds := Double.rounds_shortest layout.tie code
  have hrounds' := Double.rounds_shortest layout.tie code'
  rw [← rounds_eq_of_setDecimal_eq htexts] at hrounds'
  have hread := Double.toDouble_eq_of_rounds code.isLt hrounds false
  rw [Double.toDouble_eq_of_rounds code'.isLt hrounds' false] at hread
  exact (Double.finite.inj hread).2.symm

end Texts

end Layout

end ArithExpr
