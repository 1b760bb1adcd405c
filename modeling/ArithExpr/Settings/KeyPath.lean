import ArithExpr.Number.Numeral
import ArithExpr.Number.Word
import ArithExpr.Settings.Value

/-!
# Paths to settings

A path leads from the whole of the settings to one place: by names through tables and
by positions through arrays.  As text it is a name followed by `.name` and `[position]`
steps.  A position that is negative counts from the end of the array.

Putting a value at the end of a path makes the way: what is in the way and is not a
table or an array, as the step needs it, gives way to one.
-/

namespace ArithExpr.Settings

/-- A step from a value to one of its parts. -/
inductive Step where
  | field (name : String)
  | index (position : Int)
  deriving DecidableEq

/-- The steps to a place; the first is a name. -/
abbrev KeyPath : Type :=
  List Step

namespace KeyPath

/-- The characters of names in paths. -/
def isNameChar (c : Char) : Bool :=
  c.isAlphanum || c = '_' || c = '-' || c = ' '

/-- A position between brackets: an integer of 64 bits, with spaces around it. -/
def position? (inside : List Char) : Option Int :=
  let isSpace (c : Char) : Bool := c = ' ' || c = '\t'
  let body := ((inside.dropWhile isSpace).reverse.dropWhile isSpace).reverse
  let (negative, digits) := match body with
    | '-' :: rest => (true, rest)
    | _ => (false, body)
  let magnitude : Int := Numeral.ofDigits digits
  let position := if negative then -magnitude else magnitude
  if digits.isEmpty || !digits.all Char.isDigit then none
  else if Word.fitsSigned position then some position
  else none

/-- The steps behind the first name. -/
def steps? (text : List Char) : Option KeyPath :=
  match text with
  | [] => some []
  | '.' :: rest =>
    let name := rest.takeWhile isNameChar
    have := (List.dropWhile_suffix isNameChar (l := rest)).length_le
    if name.isEmpty then none
    else (steps? (rest.dropWhile isNameChar)).map (.field (String.ofList name) :: ·)
  | '[' :: rest =>
    match h : rest.dropWhile (· ≠ ']') with
    | [] => none
    | _ :: behind =>
      have := (List.dropWhile_suffix (fun c => decide (c ≠ ']')) (l := rest)).length_le
      have : behind.length < rest.length := by
        rw [h, List.length_cons] at this
        omega
      (position? (rest.takeWhile (· ≠ ']'))).bind fun position =>
        (steps? behind).map (.index position :: ·)
  | _ => none
termination_by text.length

/-- The path that a text stands for. -/
def ofText? (text : String) : Option KeyPath :=
  let name := text.toList.takeWhile isNameChar
  if name.isEmpty then none
  else (steps? (text.toList.dropWhile isNameChar)).map (.field (String.ofList name) :: ·)

end KeyPath

namespace Value

/-- The place that a position means in an array of some length. -/
def place (length : Nat) (position : Int) : Nat :=
  if 0 ≤ position then position.toNat else length - position.natAbs

/-- Change one item of an array, which is made longer if it is too short.  What is no array gives
way to one. -/
def alterItem (position : Int) (change : Value → Value) (target : Value) : Value :=
  let (origin, items) := match target with
    | .array origin items => (origin, items)
    | _ => (none, [])
  let place := place items.length position
  let items := items ++ List.replicate (place + 1 - items.length) absent
  .array origin (items.set place (change (items[place]?.getD absent)))

/-- Put a value at the end of a path that leads into another one. -/
def putAt (incoming : Value) : KeyPath → Value → Value
  | [], _ => incoming
  | [.field name], target => target.setField name incoming
  | .field name :: rest, target =>
    target.assignField (foldCase name)
      (putAt incoming rest ((target.field? (foldCase name)).getD absent))
  | .index position :: rest, target => target.alterItem position (putAt incoming rest)

end Value

end ArithExpr.Settings
