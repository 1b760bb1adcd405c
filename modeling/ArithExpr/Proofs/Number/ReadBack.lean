import ArithExpr.Number.Layout
import ArithExpr.Proofs.Number.DigitRun
import ArithExpr.Proofs.Number.Rounding

/-!
# Written numbers read back

A finite double with no sign is written without one, in positional notation, and is read
back from its text (`double?_write_plain`).

Three steps lead there.  The shortest decimal of a code lies in the interval of the code,
whichever grid it was found on (`rounds_shortest`).  In plain layout a decimal is written
with the same value, only that a power of ten above one becomes zeros (`positional_setDecimal`).
And rounding takes every decimal in the interval to the code it came from.
-/

namespace ArithExpr

open Numeral Text

/-! ### The shortest decimal is in the interval -/

namespace Double

section Shortest

variable {tie : Tie} {code : Nat} {k : Int}

/-- The nearer of two neighbours is one of them. -/
lemma nearer_eq_or (tie : Tie) (code c : Nat) (k : Int) :
    nearer tie code c k = c ∨ nearer tie code c k = c + 1 := by
  unfold nearer
  dsimp only
  split
  · exact Or.inl rfl
  · split
    · exact Or.inr rfl
    · cases tie with
      | up => exact Or.inr rfl
      | even =>
        dsimp only
        split
        · exact Or.inl rfl
        · exact Or.inr rfl

/-- What is found on a grid is in the interval. -/
lemma rounds_of_onGrid? {d : Decimal} (h : onGrid? tie code k = some d) : rounds code d = true := by
  unfold onGrid? at h
  dsimp only at h
  generalize units code * _ / _ = c at h
  split at h
  · next hlow hhigh =>
    obtain rfl := Option.some.inj h
    rcases nearer_eq_or tie code c k with heq | heq
    · rw [heq]
      exact hlow
    · rw [heq]
      exact hhigh
  · next hlow _ =>
    obtain rfl := Option.some.inj h
    exact hlow
  · next _ hhigh =>
    obtain rfl := Option.some.inj h
    exact hhigh
  · cases h

/-- A value is strictly inside its own interval. -/
lemma inInterval_self {den : Nat} (hcode : 0 < code) (hden : 0 < den) :
    InInterval code (2 * units code * den) den := by
  have hbefore : units (code - 1) < units code := units_strictMono (by omega)
  have hafter : units code < units (code + 1) := units_lt_units_succ code
  have hlower : lowerEnd code * den < 2 * units code * den :=
    Nat.mul_lt_mul_of_pos_right (by rw [lowerEnd]; omega) hden
  have hupper : 2 * units code * den < upperEnd code * den :=
    Nat.mul_lt_mul_of_pos_right (by rw [upperEnd]; omega) hden
  refine ⟨hlower.le, hupper.le, ?_⟩
  rintro (heq | heq)
  · exact absurd heq hlower.ne'
  · exact absurd heq hupper.ne

/-- A value that is written out in full is inside its own interval. -/
lemma rounds_exactly (hcode : 0 < code) : rounds code (exactly code) = true := by
  have hcoefficient : (exactly code).coefficient = units code * Nat.pow 5 1074 := rfl
  have hup : Nat.pow 10 (exactly code).exponent.toNat = 1 := rfl
  have hdown : (-(exactly code).exponent).toNat = 1074 := rfl
  rw [rounds_iff, hcoefficient, hup, hdown, pow_units_succ]
  generalize 1074 = n
  have hten : Nat.pow 10 n = Nat.pow 5 n * Nat.pow 2 n := Nat.mul_pow 5 2 n
  have hvalue :
      units code * Nat.pow 5 n * 1 * (2 * Nat.pow 2 n) = 2 * units code * Nat.pow 10 n := by
    rw [hten, Nat.mul_one]
    ac_rfl
  rw [hvalue]
  exact inInterval_self hcode (Nat.pow_pos (by decide))

/-- Whatever grids are tried, the decimal that comes out is in the interval. -/
lemma rounds_searchFrom (hcode : 0 < code) (grids : Nat) (k : Int) :
    rounds code (searchFrom tie code grids k) = true := by
  induction grids generalizing k with
  | zero => exact rounds_exactly hcode
  | succ grids ih =>
    rw [searchFrom]
    cases hgrid : onGrid? tie code k with
    | none => exact ih (k - 1)
    | some d => exact rounds_of_onGrid? hgrid

/-- The shortest decimal of a code is in its interval. -/
theorem rounds_shortest (tie : Tie) (code : Nat) : rounds code (shortest tie code) = true := by
  unfold shortest
  split
  · next hzero =>
    rw [hzero, rounds_iff]
    simp only [Nat.zero_mul]
    exact ⟨Nat.le_refl 0, Nat.zero_le _, fun _ => rfl⟩
  · next hne => exact rounds_searchFrom (Nat.pos_of_ne_zero hne) _ _

end Shortest

end Double

/-! ### Digits and their number -/

namespace Numeral

/-- The number of a run of digits is that of core. -/
lemma ofDigits_eq_ofDigitChars (digits : List Char) :
    ofDigits digits = Nat.ofDigitChars 10 digits 0 := by
  rw [ofDigits, ofValues_eq, List.foldl_map]
  rfl

/-- The digits of a number are digits of that number. -/
lemma ofDigits_toDigits (n : Nat) : ofDigits (Nat.toDigits 10 n) = n := by
  rw [ofDigits_eq_ofDigitChars, Nat.ofDigitChars_ten_toDigits]

/-- Zeros in front of digits add nothing. -/
lemma ofDigits_zeros_append (count : Nat) (digits : List Char) :
    ofDigits (List.replicate count '0' ++ digits) = ofDigits digits := by
  simp only [ofDigits_eq_ofDigitChars]
  induction count with
  | zero => rfl
  | succ count ih => exact ih

/-- Each zero behind digits is a factor of ten. -/
lemma ofDigits_append_zeros (digits : List Char) (count : Nat) :
    ofDigits (digits ++ List.replicate count '0') = ofDigits digits * Nat.pow 10 count := by
  have hzeros : ∀ start, Nat.ofDigitChars 10 (List.replicate count '0') start =
      start * Nat.pow 10 count := by
    intro start
    induction count generalizing start with
    | zero => exact (Nat.mul_one start).symm
    | succ count ih =>
      have hstep : Nat.ofDigitChars 10 (List.replicate (count + 1) '0') start =
          Nat.ofDigitChars 10 (List.replicate count '0') (10 * start) := rfl
      have hpow : Nat.pow 10 (count + 1) = 10 * Nat.pow 10 count := Nat.pow_succ'
      rw [hstep, ih, hpow, Nat.mul_comm 10 start, Nat.mul_assoc]
  rw [ofDigits_eq_ofDigitChars, Nat.ofDigitChars, List.foldl_append]
  rw [ofDigits_eq_ofDigitChars]
  exact hzeros _

end Numeral

namespace Text

/-- Two runs of digits side by side are one. -/
lemma IsDigitRun.append {front back : List Char} (hfront : IsDigitRun front)
    (hback : ∀ c ∈ back, c.isDigit = true) : IsDigitRun (front ++ back) := by
  refine ⟨List.append_ne_nil_of_left_ne_nil hfront.1 back, fun c hc => ?_⟩
  rcases List.mem_append.mp hc with hc | hc
  · exact hfront.2 c hc
  · exact hback c hc

/-- The digits of a number are a run of digits. -/
lemma isDigitRun_toDigits (n : Nat) : IsDigitRun (Nat.toDigits 10 n) :=
  ⟨Nat.toDigits_ne_nil, fun _ hc => Nat.isDigit_of_mem_toDigits (by decide) (by decide) hc⟩

/-- Zeros are digits. -/
lemma isDigit_of_mem_zeros {count : Nat} {c : Char} (h : c ∈ List.replicate count '0') :
    c.isDigit = true := by
  rw [List.eq_of_mem_replicate h]
  decide

end Text

/-! ### Decimals in plain layout -/

/-- The same decimal, with a power of ten above one multiplied into the coefficient. -/
def Decimal.expanded (d : Decimal) : Decimal :=
  ⟨d.coefficient * Nat.pow 10 d.exponent.toNat, min d.exponent 0⟩

/-- A decimal with its power of ten multiplied in lies in the same intervals. -/
lemma Double.rounds_expanded (code : Nat) (d : Decimal) :
    rounds code d.expanded = rounds code d := by
  have hup : (min d.exponent 0).toNat = 0 := by omega
  have hdown : (-min d.exponent 0).toNat = (-d.exponent).toNat := by omega
  have hcoefficient : d.expanded.coefficient * Nat.pow 10 d.expanded.exponent.toNat =
      d.coefficient * Nat.pow 10 d.exponent.toNat := by
    rw [Decimal.expanded, hup]
    exact Nat.mul_one _
  rw [Bool.eq_iff_iff, rounds_iff, rounds_iff, hcoefficient, Decimal.expanded, hdown]

/-- Below one nothing is multiplied in. -/
lemma Decimal.expanded_of_neg {d : Decimal} (h : d.exponent < 0) : d.expanded = d := by
  have hup : d.exponent.toNat = 0 := by omega
  rw [expanded, hup, Int.min_eq_left h.le, show Nat.pow 10 0 = 1 from rfl, Nat.mul_one]

namespace Layout

section Plain

variable {d : Decimal}

/-- With a power of ten that is at least one, a decimal is written as its digits and zeros. -/
lemma positional_of_nonneg (h : 0 ≤ d.exponent) :
    Positional (plain.setPositional (Nat.toDigits 10 d.coefficient) d.exponent) d.expanded := by
  have htext : plain.setPositional (Nat.toDigits 10 d.coefficient) d.exponent =
      Nat.toDigits 10 d.coefficient ++ List.replicate d.exponent.toNat '0' := by
    rw [setPositional, if_pos h, plain]
    simp
  have hvalue : d.expanded =
      ⟨ofDigits (Nat.toDigits 10 d.coefficient ++ List.replicate d.exponent.toNat '0'), 0⟩ := by
    rw [ofDigits_append_zeros, ofDigits_toDigits, Decimal.expanded, Int.min_eq_right h]
  rw [htext, hvalue]
  exact .whole ((isDigitRun_toDigits _).append fun _ => isDigit_of_mem_zeros)

/-- With a negative power of ten, the point stands among the digits when these are more than the
places behind it. -/
lemma positional_of_lt_length (h : d.exponent < 0)
    (hlt : (-d.exponent).toNat < (Nat.toDigits 10 d.coefficient).length) :
    Positional (plain.setPositional (Nat.toDigits 10 d.coefficient) d.exponent) d.expanded := by
  obtain ⟨-, hdigits⟩ := isDigitRun_toDigits d.coefficient
  have hnumber := ofDigits_toDigits d.coefficient
  generalize Nat.toDigits 10 d.coefficient = digits at hlt hdigits hnumber ⊢
  set count := digits.length - (-d.exponent).toNat with hcount
  have htext : plain.setPositional digits d.exponent =
      digits.take count ++ '.' :: digits.drop count := by
    rw [setPositional, if_neg (Int.not_le.mpr h), if_pos hlt]
  have hplaces : ((digits.drop count).length : Int) = -d.exponent := by
    rw [List.length_drop]
    omega
  have hvalue : d.expanded =
      ⟨ofDigits (digits.take count ++ digits.drop count), -(digits.drop count).length⟩ := by
    rw [List.take_append_drop, hnumber, hplaces, Int.neg_neg, Decimal.expanded_of_neg h]
  rw [htext, hvalue]
  refine .decimal ⟨?_, fun c hc => hdigits c (List.mem_of_mem_take hc)⟩
    ⟨?_, fun c hc => hdigits c (List.mem_of_mem_drop hc)⟩
  · refine List.ne_nil_of_length_pos ?_
    rw [List.length_take]
    omega
  · refine List.ne_nil_of_length_pos ?_
    omega

/-- With a negative power of ten, the point stands in front of zeros and the digits when these are
no more than the places behind it. -/
lemma positional_of_length_le (h : d.exponent < 0)
    (hle : (Nat.toDigits 10 d.coefficient).length ≤ (-d.exponent).toNat) :
    Positional (plain.setPositional (Nat.toDigits 10 d.coefficient) d.exponent) d.expanded := by
  have hdigits := isDigitRun_toDigits d.coefficient
  have hnumber := ofDigits_toDigits d.coefficient
  generalize Nat.toDigits 10 d.coefficient = digits at hle hdigits hnumber ⊢
  set zeros := List.replicate ((-d.exponent).toNat - digits.length) '0' with hzeros
  have htext : plain.setPositional digits d.exponent = ['0'] ++ '.' :: (zeros ++ digits) := by
    rw [setPositional, if_neg (Int.not_le.mpr h), if_neg (Nat.not_lt.mpr hle)]
    rfl
  have hplaces : ((zeros ++ digits).length : Int) = -d.exponent := by
    rw [List.length_append, hzeros, List.length_replicate]
    omega
  have hvalue : d.expanded =
      ⟨ofDigits (['0'] ++ (zeros ++ digits)), -(zeros ++ digits).length⟩ := by
    have hzero : ofDigits (['0'] ++ (zeros ++ digits)) = ofDigits (zeros ++ digits) :=
      ofDigits_zeros_append 1 _
    rw [hzero, ofDigits_zeros_append, hnumber, hplaces, Int.neg_neg, Decimal.expanded_of_neg h]
  rw [htext, hvalue]
  refine .decimal ⟨List.cons_ne_nil _ _, by simp⟩ ⟨?_, fun c hc => ?_⟩
  · exact List.append_ne_nil_of_right_ne_nil zeros hdigits.1
  · rcases List.mem_append.mp hc with hc | hc
    · exact isDigit_of_mem_zeros hc
    · exact hdigits.2 c hc

/-- In plain layout a decimal is written in positional notation, with its own value. -/
theorem positional_setDecimal (d : Decimal) : Positional (plain.setDecimal d) d.expanded := by
  have hset : plain.setDecimal d =
      plain.setPositional (Nat.toDigits 10 d.coefficient) d.exponent := rfl
  rw [hset]
  rcases Int.lt_or_le d.exponent 0 with hneg | hnonneg
  · rcases Nat.lt_or_ge (-d.exponent).toNat (Nat.toDigits 10 d.coefficient).length with hlt | hle
    · exact positional_of_lt_length hneg hlt
    · exact positional_of_length_le hneg hle
  · exact positional_of_nonneg hnonneg

/-- A finite double with no sign is written in positional notation, as a decimal that is read as
it. -/
theorem exists_positional_write (code : Fin Double.finiteCodes) :
    ∃ d : Decimal, Positional (plain.write (.finite false code)).toList d ∧
      d.toDouble false = .finite false code := by
  have hrounds := Double.rounds_shortest plain.tie code
  rw [← Double.rounds_expanded] at hrounds
  refine ⟨(Double.shortest plain.tie code).expanded, ?_, ?_⟩
  · have hwrite : plain.write (.finite false code) =
        String.ofList (plain.setDecimal (Double.shortest plain.tie code)) := rfl
    rw [hwrite, String.toList_ofList]
    exact positional_setDecimal _
  · exact Double.toDouble_eq_of_rounds code.isLt hrounds false

/-- A finite double with no sign is read back from its text. -/
theorem double?_write_plain (code : Fin Double.finiteCodes) :
    double? (plain.write (.finite false code)).toList = some (.finite false code) := by
  obtain ⟨d, hpositional, hd⟩ := exists_positional_write code
  rw [hpositional.double?_eq, hd]

end Plain

end Layout

end ArithExpr
