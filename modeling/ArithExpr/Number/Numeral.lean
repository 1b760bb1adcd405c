import ArithExpr.Number.Decimal
import ArithExpr.Text.Digits

/-!
# Numerals

A numeral is an optional sign followed by decimal digits with at most one point
among them, at least one digit in all, and an optional exponent: `e` or `E`, an
optional sign and at least one digit.  The words `inf`, `infinity` and `nan`, in
any case, are numerals too.  There are no blanks and no separators.  Of a huge
exponent only the first digits count.
-/

namespace ArithExpr.Numeral

/-- The sign in front of a text, negative or not, and what follows it. -/
def takeSign : List Char → Bool × List Char
  | '-' :: rest => (true, rest)
  | '+' :: rest => (false, rest)
  | text => (false, text)

/-- The number that a run of digits is. -/
def ofDigits (digits : List Char) : Nat :=
  Text.ofValues 10 (digits.length / 32).log2 (digits.map fun c => c.toNat - '0'.toNat)

/-- An exponent takes up digits as long as it is below this bound; the digits behind have no
influence.  So it stays below ten times the bound. -/
def exponentBound : Nat :=
  0x10000

/-- The size that the digits of an exponent give. -/
def exponentSize (digits : List Char) : Nat :=
  digits.foldl
    (fun size c => if size < exponentBound then 10 * size + (c.toNat - '0'.toNat) else size) 0

/-- The digits behind a point, if there is one, and what follows them. -/
def takeFraction : List Char → List Char × List Char
  | '.' :: rest => (rest.takeWhile Char.isDigit, rest.dropWhile Char.isDigit)
  | text => ([], text)

/-- The exponent that ends a numeral; none is zero. -/
def exponent? : List Char → Option Int
  | [] => some 0
  | c :: rest =>
    if c = 'e' || c = 'E' then
      let (negative, digits) := takeSign rest
      if digits.isEmpty || !digits.all Char.isDigit then none
      else if negative then some (-(exponentSize digits : Int))
      else some (exponentSize digits)
    else none

/-- The decimal that an unsigned numeral of digits stands for. -/
def decimal? (text : List Char) : Option Decimal :=
  let whole := text.takeWhile Char.isDigit
  let (fraction, rest) := takeFraction (text.dropWhile Char.isDigit)
  if whole.isEmpty && fraction.isEmpty then none
  else (exponent? rest).map fun exponent =>
    ⟨ofDigits (whole ++ fraction), exponent - fraction.length⟩

/-- The double that a numeral stands for, rounded to nearest. -/
def double? (text : List Char) : Option Double :=
  let (negative, body) := takeSign text
  let word := body.map Char.toLower
  if word = "nan".toList then some .nan
  else if word = "inf".toList || word = "infinity".toList then some (.infinite negative)
  else (decimal? body).map fun decimal => decimal.toDouble negative

end ArithExpr.Numeral
