import ArithExpr.Number.Numeral
import ArithExpr.Number.Word
import ArithExpr.Toml.Text
import ArithExpr.Toml.Value

/-!
# Numbers

A number is an integer or a float.  Integers fit in 64 bits with a sign; without a
sign they can also be written in base 16, 8 or 2.  A float has digits behind a point
or an exponent, or is one of the words `inf` and `nan`.  Single underscores may stand
between digits.
-/

namespace ArithExpr.Toml

/-- The digits in front of a text, behind those that have been read, latest first, and what follows
them: single underscores between digits are dropped. -/
def digitsFrom (isDigit : Char → Bool) (read : List Char) : List Char → List Char × List Char
  | [] => (read.reverse, [])
  | '_' :: c :: rest =>
    if isDigit c then digitsFrom isDigit (c :: read) rest else (read.reverse, '_' :: c :: rest)
  | c :: rest =>
    if isDigit c then digitsFrom isDigit (c :: read) rest else (read.reverse, c :: rest)

/-- One digit or more. -/
def digits (isDigit : Char → Bool) : Reader (List Char)
  | [] => none
  | c :: rest => if isDigit c then some (digitsFrom isDigit [c] rest) else none

/-- The digits of a decimal integer: a zero in front stands alone. -/
def wholeDigits : Reader (List Char)
  | '0' :: rest => some (['0'], rest)
  | text => digits Char.isDigit text

/-- A sign as it is written, and what follows it. -/
def takeSign : List Char → List Char × List Char
  | '+' :: rest => (['+'], rest)
  | '-' :: rest => (['-'], rest)
  | text => ([], text)

/-- An integer, if it fits in 64 bits with a sign. -/
def fitting (n : Int) : Option Value :=
  if Word.fitsSigned n then some (.integer n) else none

/-- An integer in another base than ten, read behind its mark. -/
def based (base : Nat) : Reader Value := fun text => do
  let (ds, rest) ← digits (fun c => (Text.digitValue? base c).isSome) text
  let value ← fitting (← Text.ofDigits? base ds)
  return (value, rest)

/-- The digits behind a point, with the point; none if there is no point. -/
def fraction : Reader (List Char)
  | '.' :: rest => (digits Char.isDigit rest).map fun (ds, rest) => ('.' :: ds, rest)
  | text => some ([], text)

/-- An exponent with its letter; none if there is no letter. -/
def exponent : Reader (List Char)
  | [] => some ([], [])
  | c :: rest =>
    if c = 'e' || c = 'E' then
      let (sign, rest) := takeSign rest
      (digits Char.isDigit rest).map fun (ds, rest) => ('e' :: (sign ++ ds), rest)
    else some ([], c :: rest)

/-- The float that a numeral stands for.  One too large for a float is refused if it is positive;
if it is negative it becomes infinite. -/
def float? (numeral : List Char) : Option Value :=
  match Numeral.double? numeral with
  | some (.infinite false) => none
  | some value => some (.float value)
  | none => none

/-- A number of decimal digits, read behind its sign. -/
def decimal (sign : List Char) : Reader Value := fun text => do
  let (whole, rest) ← wholeDigits text
  let (behindPoint, rest) ← fraction rest
  let (power, rest) ← exponent rest
  if behindPoint.isEmpty && power.isEmpty then
    let magnitude : Int := Numeral.ofDigits whole
    let value ← fitting (if sign = ['-'] then -magnitude else magnitude)
    return (value, rest)
  else
    let value ← float? (sign ++ whole ++ behindPoint ++ power)
    return (value, rest)

/-- A number. -/
def number : Reader Value
  | '0' :: 'x' :: rest => based 16 rest
  | '0' :: 'o' :: rest => based 8 rest
  | '0' :: 'b' :: rest => based 2 rest
  | text =>
    match takeSign text with
    | (sign, 'i' :: 'n' :: 'f' :: rest) => some (.float (.infinite (sign = ['-'])), rest)
    | (_, 'n' :: 'a' :: 'n' :: rest) => some (.float .nan, rest)
    | (sign, rest) => decimal sign rest

end ArithExpr.Toml
