import ArithExpr.Toml.Date
import ArithExpr.Toml.Value

/-!
# Tables that stand for dates

A date can be written as a table.  The first name in such a table is `dateMark`, and
under it stands the date as a text; what follows in the table does not count.  A table
that begins so but does not have the text of a date there is faulty.

`Value.withDates` puts dates in the place of all such tables in a value.
-/

namespace ArithExpr.Toml

/-- The name that a table begins with if it stands for a date. -/
def dateMark : String :=
  "$__toml_private_datetime"

/-- What a table has under the mark, if it begins with it. -/
def underMark? : Table → Option Value
  | [] => none
  | (name, content) :: _ => if name = dateMark then some content else none

/-- The date that stands under the mark. -/
def markedDate? : Value → Option Value
  | .text s => (dateOfText? s).map .date
  | _ => none

mutual

/-- A value with a date in the place of each table that stands for one. -/
def Value.withDates : Value → Option Value
  | .array items => (itemsWithDates [] items).map .array
  | .table entries =>
    match underMark? entries with
    | some content => markedDate? content
    | none => (entriesWithDates [] entries).map .table
  | value => some value

/-- The items of an array with their dates, behind those that are done, latest first. -/
def itemsWithDates (done : List Value) : List Value → Option (List Value)
  | [] => some done.reverse
  | item :: rest =>
    match item.withDates with
    | some item => itemsWithDates (item :: done) rest
    | none => none

/-- The entries of a table with their dates, behind those that are done, latest first. -/
def entriesWithDates (done : List (String × Value)) :
    List (String × Value) → Option (List (String × Value))
  | [] => some done.reverse
  | (name, content) :: rest =>
    match content.withDates with
    | some content => entriesWithDates ((name, content) :: done) rest
    | none => none

end

end ArithExpr.Toml
