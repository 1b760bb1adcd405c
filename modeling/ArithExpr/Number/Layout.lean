import ArithExpr.Number.Shortest

/-!
# Layouts of numbers

A layout says how the digits of a shortest decimal are set: which magnitudes are
written positionally and which with an exponent, whether a whole number keeps a
zero behind the point, how the exponent is signed, and which words stand for the
values that have no digits.
-/

namespace ArithExpr

/-- The decisions that turn the digits of a number into its text. -/
structure Layout where
  /-- Which of two equally near decimals is written. -/
  tie : Tie
  /-- The exponents of the leading digit, from the first up to but without the second, at which
  a number is written without an exponent; with none given, every number is. -/
  positional : Option (Int × Int)
  /-- Whether a whole number written without an exponent ends in `.0`. -/
  keepsPoint : Bool
  /-- Whether an exponent that is not negative has a `+` in front. -/
  signsExponent : Bool
  positiveInfinity : String
  negativeInfinity : String
  nan : String

namespace Layout

/-- Always positional, no point in whole numbers, and a tie goes up: the layout of numbers in
messages and in plain text. -/
def plain : Layout where
  tie := .up
  positional := none
  keepsPoint := false
  signsExponent := false
  positiveInfinity := "inf"
  negativeInfinity := "-inf"
  nan := "NaN"

/-- Digits times a power of ten, without an exponent. -/
def setPositional (layout : Layout) (digits : List Char) (exponent : Int) : List Char :=
  let places := (-exponent).toNat
  if 0 ≤ exponent then
    digits ++ List.replicate exponent.toNat '0' ++ (if layout.keepsPoint then ['.', '0'] else [])
  else if places < digits.length then
    digits.take (digits.length - places) ++ '.' :: digits.drop (digits.length - places)
  else
    '0' :: '.' :: (List.replicate (places - digits.length) '0' ++ digits)

/-- Digits whose first stands for a multiple of `10 ^ lead`, with an exponent. -/
def setScientific (layout : Layout) (digits : List Char) (lead : Int) : List Char :=
  let mantissa := match digits with
    | first :: second :: rest => first :: '.' :: second :: rest
    | _ => digits
  let sign := if lead < 0 then ['-'] else if layout.signsExponent then ['+'] else []
  mantissa ++ 'e' :: (sign ++ Nat.toDigits 10 lead.natAbs)

/-- The text of a decimal. -/
def setDecimal (layout : Layout) (d : Decimal) : List Char :=
  let digits := Nat.toDigits 10 d.coefficient
  let lead := (digits.length : Int) + d.exponent - 1
  match layout.positional with
  | none => layout.setPositional digits d.exponent
  | some (first, stop) =>
    if first ≤ lead && lead < stop then layout.setPositional digits d.exponent
    else layout.setScientific digits lead

/-- The text of a double: the shortest decimal that reads back as it, with its sign. -/
def write (layout : Layout) : Double → String
  | .finite negative code =>
    let digits := layout.setDecimal (Double.shortest layout.tie code)
    String.ofList (if negative then '-' :: digits else digits)
  | .infinite false => layout.positiveInfinity
  | .infinite true => layout.negativeInfinity
  | .nan => layout.nan

end Layout

end ArithExpr
