/-!
# Double precision numbers

The values of literals are the numbers of the IEEE 754 format binary64.  A finite
one is kept as a sign and a *code*: the codes number the non-negative values in
increasing order from zero, so the next value up has the next code.

Every finite magnitude is a whole multiple of the least positive one, `2 ^ -1074`.
`Double.units` is that multiple, a natural number, and all arithmetic on values is
done on it exactly: rounding, reading decimals and writing them need no fractions.
-/

namespace ArithExpr

/-- How many codes have steps of the same size, `2 ^ 52`. -/
abbrev Double.runLength : Nat :=
  0x10000000000000

/-- How many codes are those of finite values. -/
abbrev Double.finiteCodes : Nat :=
  2047 * Double.runLength

/-- A number of the format binary64.  There is one zero of each sign, and one value stands for
every NaN. -/
inductive Double where
  | finite (negative : Bool) (code : Fin Double.finiteCodes)
  | infinite (negative : Bool)
  | nan
  deriving DecidableEq

namespace Double

/-- The magnitude with a code, in units of `2 ^ -1074`.  Below code `2 ^ 53` units and code agree;
each further run of `2 ^ 52` codes has steps twice as large as the run in front of it. -/
def units (code : Nat) : Nat :=
  (code - (code / runLength - 1) * runLength) * Nat.pow 2 (code / runLength - 1)

/-- The greatest code whose magnitude is at most `amount` units. -/
def codeBelow (amount : Nat) : Nat :=
  (amount.log2 - 52) * runLength + amount / Nat.pow 2 (amount.log2 - 52)

/-- The code whose magnitude is nearest to `num / den`; of two equally near the even one. -/
def nearestCode (num den : Nat) : Nat :=
  let code := codeBelow (num * Nat.pow 2 1074 / den)
  let value := num * Nat.pow 2 1075
  let middle := (units code + units (code + 1)) * den
  if value < middle then code
  else if middle < value then code + 1
  else if code % 2 = 0 then code
  else code + 1

/-- The value with a sign and a code: past the finite codes it is infinite. -/
def ofCode (negative : Bool) (code : Nat) : Double :=
  if h : code < finiteCodes then .finite negative ⟨code, h⟩ else .infinite negative

/-- The value nearest to a fraction, with a sign. -/
def ofRatio (negative : Bool) (num den : Nat) : Double :=
  ofCode negative (nearestCode num den)

/-- Equality of numbers: the two zeros are equal, and NaN equals nothing. -/
def numericallyEqual : Double → Double → Bool
  | .finite negative code, .finite negative' code' =>
    code = code' && (negative = negative' || code.val = 0)
  | .infinite negative, .infinite negative' => negative = negative'
  | _, _ => false

/-- The nearest natural number, halves going up, held between zero and `limit`. -/
def roundClamped (limit : Nat) : Double → Nat
  | .finite false code => min limit ((2 * units code + Nat.pow 2 1074) / Nat.pow 2 1075)
  | .infinite false => limit
  | _ => 0

@[simp] theorem units_zero : units 0 = 0 := by
  simp [units]

end Double

end ArithExpr
