import ArithExpr.Number.Numeral
import Mathlib.Data.List.TakeWhile
import Mathlib.Tactic.Common

/-!
# Digit runs are numerals

A run of decimal digits is a numeral, and so are two runs with a point between them.
Neither a sign nor one of the words for infinity and NaN begins with a digit, so both
texts are read as decimals.  `Positional` relates the two kinds of text to the decimals
they stand for.
-/

namespace ArithExpr

/-- A text of decimal digits, at least one. -/
def Text.IsDigitRun (text : List Char) : Prop :=
  text ≠ [] ∧ ∀ c ∈ text, c.isDigit = true

/-- A text ends at the first character of a class, so what stands in front of it and what follows
can be told apart. -/
lemma Text.append_inj_of_stop {stops : Char → Prop} {text text' rest rest' : List Char}
    (htext : ∀ c ∈ text, ¬ stops c) (htext' : ∀ c ∈ text', ¬ stops c)
    (hrest : ∀ c ∈ rest.head?, stops c) (hrest' : ∀ c ∈ rest'.head?, stops c)
    (h : text ++ rest = text' ++ rest') : text = text' ∧ rest = rest' := by
  induction text generalizing text' with
  | nil =>
    cases text' with
    | nil => exact ⟨rfl, h⟩
    | cons c text' =>
      rw [List.nil_append, List.cons_append] at h
      exact absurd (hrest c (by rw [h]; rfl)) (htext' c List.mem_cons_self)
  | cons c text ih =>
    obtain ⟨hc, htext⟩ := List.forall_mem_cons.mp htext
    cases text' with
    | nil =>
      rw [List.nil_append, List.cons_append] at h
      exact absurd (hrest' c (by rw [← h]; rfl)) hc
    | cons c' text' =>
      obtain ⟨rfl, htail⟩ := List.cons.inj h
      obtain ⟨-, htext'⟩ := List.forall_mem_cons.mp htext'
      obtain ⟨rfl, hrest⟩ := ih htext htext' htail
      exact ⟨rfl, hrest⟩

namespace Numeral

open Text

section Digits

variable {c : Char} {text rest : List Char}

/-- A digit has no case. -/
lemma toLower_eq_of_isDigit (h : c.isDigit = true) : c.toLower = c := by
  have hrange := Char.isDigit_iff_toNat.mp h
  refine dif_neg fun hupper => ?_
  have hlow : 'A'.toNat ≤ c.toNat := hupper.1
  exact absurd (Nat.le_trans hlow hrange.2) (by decide)

/-- A text that begins with a digit has no sign. -/
lemma takeSign_eq_of_isDigit (h : c.isDigit = true) :
    takeSign (c :: rest) = (false, c :: rest) := by
  unfold takeSign
  split
  · next heq =>
    obtain ⟨rfl, -⟩ := List.cons.inj heq
    exact absurd h (by decide)
  · next heq =>
    obtain ⟨rfl, -⟩ := List.cons.inj heq
    exact absurd h (by decide)
  · rfl

/-- A text that begins with a digit is read as a decimal. -/
lemma double?_eq_of_isDigit (h : c.isDigit = true) :
    double? (c :: rest) = (decimal? (c :: rest)).map fun decimal => decimal.toDouble false := by
  have hword (word : List Char) (hhead : ∀ d ∈ word.head?, d.isDigit = false) :
      (c :: rest).map Char.toLower ≠ word := by
    rintro rfl
    rw [List.map_cons, toLower_eq_of_isDigit h] at hhead
    exact absurd h (by simp [hhead c rfl])
  rw [double?, takeSign_eq_of_isDigit h]
  simp only
  rw [if_neg (hword "nan".toList (by simp)), if_neg]
  rw [Bool.or_eq_true, decide_eq_true_eq, decide_eq_true_eq]
  exact not_or.mpr ⟨hword "inf".toList (by simp), hword "infinity".toList (by simp)⟩

/-- A text of digits, or of digits, a point and digits, and the decimal that it stands for. -/
inductive Positional : List Char → Decimal → Prop
  | whole {text : List Char} (hdigits : IsDigitRun text) : Positional text ⟨ofDigits text, 0⟩
  | decimal {whole fraction : List Char} (hwhole : IsDigitRun whole)
      (hfraction : IsDigitRun fraction) :
      Positional (whole ++ '.' :: fraction) ⟨ofDigits (whole ++ fraction), -fraction.length⟩

/-- A text in positional notation begins with a digit. -/
lemma Positional.exists_digit {d : Decimal} (h : Positional text d) :
    ∃ c rest, text = c :: rest ∧ c.isDigit = true := by
  cases h with
  | whole hdigits =>
    obtain ⟨c, rest, rfl⟩ := List.exists_cons_of_ne_nil hdigits.1
    exact ⟨c, rest, rfl, hdigits.2 c List.mem_cons_self⟩
  | @decimal whole fraction hwhole hfraction =>
    obtain ⟨c, rest, rfl⟩ := List.exists_cons_of_ne_nil hwhole.1
    exact ⟨c, rest ++ '.' :: fraction, rfl, hwhole.2 c List.mem_cons_self⟩

/-- A text in positional notation is read as the decimal that it stands for. -/
lemma Positional.decimal?_eq {d : Decimal} (h : Positional text d) : decimal? text = some d := by
  cases h with
  | whole hdigits =>
    have hne : text.isEmpty = false := List.isEmpty_eq_false_iff.mpr hdigits.1
    rw [decimal?, List.takeWhile_eq_self_iff.mpr hdigits.2, List.dropWhile_eq_nil_iff.mpr hdigits.2]
    simp [takeFraction, exponent?, hne]
  | @decimal whole fraction hwhole hfraction =>
    have hne : whole.isEmpty = false := List.isEmpty_eq_false_iff.mpr hwhole.1
    have hpoint : ¬ '.'.isDigit = true := by decide
    rw [decimal?, List.takeWhile_append_of_pos hwhole.2, List.dropWhile_append_of_pos hwhole.2,
      List.takeWhile_cons_of_neg hpoint, List.dropWhile_cons_of_neg hpoint, takeFraction,
      List.takeWhile_eq_self_iff.mpr hfraction.2, List.dropWhile_eq_nil_iff.mpr hfraction.2]
    simp [exponent?, hne]

/-- A text in positional notation is read as the double nearest to its decimal. -/
theorem Positional.double?_eq {d : Decimal} (h : Positional text d) :
    double? text = some (d.toDouble false) := by
  have hdecimal := h.decimal?_eq
  obtain ⟨c, rest, rfl, hc⟩ := h.exists_digit
  rw [double?_eq_of_isDigit hc, hdecimal, Option.map_some]

/-- A run of digits is a numeral. -/
theorem exists_double?_of_isDigitRun (h : IsDigitRun text) :
    ∃ value, double? text = some value :=
  ⟨_, (Positional.whole h).double?_eq⟩

/-- Two runs of digits with a point between them are a numeral. -/
theorem exists_double?_of_decimal {fraction : List Char} (h : IsDigitRun text)
    (hfraction : IsDigitRun fraction) :
    ∃ value, double? (text ++ '.' :: fraction) = some value :=
  ⟨_, (Positional.decimal h hfraction).double?_eq⟩

end Digits

end Numeral

end ArithExpr
