/-!
# Digits

Digits of a base of at most sixteen; above nine they are the letters from `a` to `f`.
-/

namespace ArithExpr.Text

/-- A number in hexadecimal with lower-case digits, zeros in front up to a width. -/
def hex (width n : Nat) : List Char :=
  let digits := Nat.toDigits 16 n
  List.replicate (width - digits.length) '0' ++ digits

/-- The value of a digit in a base; letters count in either case. -/
def digitValue? (base : Nat) (c : Char) : Option Nat :=
  let value :=
    if c.isDigit then some (c.toNat - '0'.toNat)
    else if 'a' ≤ c && c ≤ 'f' then some (c.toNat - 'a'.toNat + 10)
    else if 'A' ≤ c && c ≤ 'F' then some (c.toNat - 'A'.toNat + 10)
    else none
  value.filter (· < base)

/-- The number that the values of digits come to in a base, the most significant first.  The run is
cut in halves as often as `levels` says, so that few products of a long run are large. -/
def ofValues (base : Nat) : (levels : Nat) → List Nat → Nat
  | 0, values => values.foldl (base * · + ·) 0
  | levels + 1, values =>
    let front := values.take (values.length / 2)
    let back := values.drop (values.length / 2)
    ofValues base levels front * Nat.pow base back.length + ofValues base levels back

/-- Digits in front count as often as there are digits behind them. -/
theorem foldl_digits (base start : Nat) (values : List Nat) :
    values.foldl (base * · + ·) start =
      start * Nat.pow base values.length + values.foldl (base * · + ·) 0 := by
  induction values generalizing start with
  | nil => simp
  | cons value rest ih =>
    rw [List.foldl_cons, List.foldl_cons, ih, ih (base * 0 + value)]
    simp only [List.length_cons, Nat.pow_eq, Nat.pow_succ, Nat.add_mul, Nat.mul_zero, Nat.zero_add]
    ac_rfl

/-- Where a run is cut has no influence on its number. -/
theorem ofValues_eq (base levels : Nat) (values : List Nat) :
    ofValues base levels values = values.foldl (base * · + ·) 0 := by
  induction levels generalizing values with
  | zero => rfl
  | succ levels ih =>
    rw [ofValues, ih, ih, ← foldl_digits, ← List.foldl_append, List.take_append_drop]

/-- The number that a run of digits is in a base, if all of them are digits of the base. -/
def ofDigits? (base : Nat) (digits : List Char) : Option Nat :=
  if digits.isEmpty then none
  else (digits.mapM (digitValue? base)).map (ofValues base (digits.length / 32).log2)

end ArithExpr.Text
