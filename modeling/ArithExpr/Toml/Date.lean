import ArithExpr.Number.Numeral
import ArithExpr.Toml.Reader

/-!
# Dates and times

A date is a day of the Gregorian calendar, a time an hour, a minute and a second with
at most nine digits behind the point that count.  A date and a time together may have
an offset from Universal Time, of a day at most.  What is read is given in its normal
form: `T` between date and time, no idle zeros behind the point, and an offset that is
`Z` or has a sign and fewer than sixty minutes.

Within a document the numbers go as far as on a clock.  Within a text they may go a
little further, as `ClockRange` says.
-/

namespace ArithExpr.Toml

/-- Whether a year has a 29th of February. -/
def isLeapYear (year : Nat) : Bool :=
  year % 4 = 0 && (year % 100 ≠ 0 || year % 400 = 0)

/-- How many days a month has. -/
def daysOfMonth (year month : Nat) : Nat :=
  if month = 2 then (if isLeapYear year then 29 else 28)
  else if [4, 6, 9, 11].contains month then 30
  else 31

/-- A number of exactly `width` digits between two bounds, as its digits. -/
def fixedNumber (width least greatest : Nat) : Reader (List Char) := fun text =>
  let ds := text.take width
  let value := Numeral.ofDigits ds
  if ds.length = width && ds.all Char.isDigit && least ≤ value && value ≤ greatest then
    some (ds, text.drop width)
  else none

/-- A date. -/
def day : Reader (List Char) := fun text => do
  let (year, rest) ← fixedNumber 4 0 9999 text
  let (month, rest) ← fixedNumber 2 1 12 (← expect '-' rest)
  let days := daysOfMonth (Numeral.ofDigits year) (Numeral.ofDigits month)
  let (date, rest) ← fixedNumber 2 1 days (← expect '-' rest)
  return (year ++ '-' :: month ++ '-' :: date, rest)

/-- The greatest hour of a time, and the greatest hours and minutes of an offset. -/
structure ClockRange where
  hour : Nat
  offsetHours : Nat
  offsetMinutes : Nat

/-- The numbers of a date that stands for itself in a document. -/
def ClockRange.inDocument : ClockRange :=
  ⟨23, 23, 59⟩

/-- The numbers of a date that stands in a text: a day may end with hour 24, and the minutes of an
offset may make up hours. -/
def ClockRange.inText : ClockRange :=
  ⟨24, 99, 99⟩

/-- The digits of a second behind its point: nine at most count, and no zeros at the end. -/
def secondFraction (text : List Char) : List Char × List Char :=
  match text with
  | '.' :: rest =>
    let written := rest.takeWhile Char.isDigit
    if written.isEmpty then ([], text)
    else
      let counted := ((written.take 9).reverse.dropWhile (· = '0')).reverse
      (if counted.isEmpty then [] else '.' :: counted, rest.dropWhile Char.isDigit)
  | _ => ([], text)

/-- A time of day. -/
def timeOfDay (range : ClockRange) : Reader (List Char) := fun text => do
  let (hour, rest) ← fixedNumber 2 0 range.hour text
  let (minute, rest) ← fixedNumber 2 0 59 (← expect ':' rest)
  let (second, rest) ← fixedNumber 2 0 60 (← expect ':' rest)
  let (fraction, rest) := secondFraction rest
  return (hour ++ ':' :: minute ++ ':' :: second ++ fraction, rest)

/-- A number below a hundred in two digits. -/
def twoDigits (n : Nat) : List Char :=
  [(n / 10).digitChar, (n % 10).digitChar]

/-- An offset from Universal Time with its sign. -/
def signedOffset (range : ClockRange) : Reader (List Char)
  | [] => none
  | sign :: rest => do
    if sign ≠ '+' && sign ≠ '-' then none
    let (hours, rest) ← fixedNumber 2 0 range.offsetHours rest
    let (minutes, rest) ← fixedNumber 2 0 range.offsetMinutes (← expect ':' rest)
    let total := 60 * Numeral.ofDigits hours + Numeral.ofDigits minutes
    if 24 * 60 < total then none
    let sign := if total = 0 then '+' else sign
    return (sign :: twoDigits (total / 60) ++ ':' :: twoDigits (total % 60), rest)

/-- An offset from Universal Time, which may be missing. -/
def offset (range : ClockRange) (text : List Char) : List Char × List Char :=
  match text with
  | 'Z' :: rest => (['Z'], rest)
  | 'z' :: rest => (['Z'], rest)
  | _ => (signedOffset range text).getD ([], text)

/-- A time with an offset behind a date, which both may be missing. -/
def timeOfDate (range : ClockRange) (text : List Char) : List Char × List Char :=
  match text with
  | [] => ([], [])
  | mark :: rest =>
    if mark = 'T' || mark = 't' || mark = ' ' then
      match timeOfDay range rest with
      | some (time, rest) =>
        let (shift, rest) := offset range rest
        ('T' :: time ++ shift, rest)
      | none => ([], text)
    else ([], text)

/-- A date, a time or both, in normal form. -/
def date (range : ClockRange) : Reader String := fun text =>
  match day text with
  | some (written, rest) =>
    let (time, rest) := timeOfDate range rest
    some (String.ofList (written ++ time), rest)
  | none => (timeOfDay range text).map fun (time, rest) => (String.ofList time, rest)

/-- The date that a text is, in normal form. -/
def dateOfText? (text : String) : Option String :=
  match date .inText text.toList with
  | some (written, []) => some written
  | _ => none

end ArithExpr.Toml
