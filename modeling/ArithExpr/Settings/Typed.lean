import ArithExpr.Number.Word
import ArithExpr.Settings
import ArithExpr.Settings.LoadError

/-!
# Typed settings

The merged value is read section by section, and each setting as what it is: a text or
a natural number.  Both are read generously.  A number or a truth value is a text when
a text is expected; and where a natural number is expected, a float is rounded, a truth
value is one or zero, and a text may spell any of the two.

A section that is an array gives its settings by position.
-/

namespace ArithExpr.Settings

/-- The text that a scalar is read as. -/
def Scalar.text? : Scalar → Option String
  | .absent => none
  | .boolean b => some (toString b)
  | .integer n => some (toString n)
  | .float d => some (Layout.plain.write d)
  | .text s => some s

/-- The natural number of 64 bits that a text spells: digits with or without a `+`, or a word for
yes or no. -/
def naturalOfText? (s : String) : Option Nat :=
  let word := Value.foldCase s
  if ["true", "on", "yes"].contains word then some 1
  else if ["false", "off", "no"].contains word then some 0
  else
    let digits := match s.toList with
      | '+' :: rest => rest
      | cs => cs
    let n := Numeral.ofDigits digits
    if digits.isEmpty || !digits.all Char.isDigit then none
    else if n ≤ Word.greatest then some n
    else none

/-- The natural number that a scalar is read as, or what was expected of it. -/
def Scalar.natural : Scalar → Except Expected Nat
  | .absent => .error .integer
  | .boolean b => .ok b.toNat
  | .integer n => if Word.fitsUnsigned n then .ok n.toNat else .error .natural
  | .float d => .ok (d.roundClamped Word.greatest)
  | .text s =>
    match naturalOfText? s with
    | some n => .ok n
    | none => .error .integer

/-- A value as a text; `place` says where it stands. -/
def Value.asText (place : String) (value : Value) : Except LoadError String :=
  match value with
  | .scalar _ content =>
    match content.text? with
    | some s => .ok s
    | none => .error (.wrongType value .text place)
  | _ => .error (.wrongType value .text place)

/-- A value as a natural number; `place` says where it stands. -/
def Value.asNatural (place : String) (value : Value) : Except LoadError Nat :=
  match value with
  | .scalar _ content => content.natural.mapError fun expected => .wrongType value expected place
  | _ => .error (.wrongType value .integer place)

/-- Read one setting of a section; nothing if a table does not have it. -/
def Section.read? {α : Type} (s : Section) (read : String → Value → Except LoadError α)
    (value : Value) (name : String) : Except LoadError (Option α) :=
  match value with
  | .table _ entries =>
    match entries.lookup name with
    | some found => (read (s.name ++ "." ++ name) found).map some
    | none => .ok none
  | .array _ items =>
    let position := s.fieldNames.idxOf name
    match items[position]? with
    | some found => (read (s.name ++ "[" ++ toString position ++ "]") found).map some
    | none => .error (.tooShort s position)
  | .scalar _ found => .error (.noSection s found)

/-- What was found under a name, which must be there. -/
def required {α : Type} (name : String) : Option α → Except LoadError α
  | some a => .ok a
  | none => .error (.missingField name)

/-- The section `messages`. -/
def Messages.ofValue (value : Value) : Except LoadError Messages := do
  let read := Section.messages.read? Value.asText value
  let left ← read "left_paren_shortage"
  let right ← read "right_paren_shortage"
  let operator ← read "operator_invalid"
  let dot ← read "dot_invalid"
  return {
    leftParenShortage := ← required "left_paren_shortage" left
    rightParenShortage := ← required "right_paren_shortage" right
    operatorInvalid := ← required "operator_invalid" operator
    dotInvalid := ← required "dot_invalid" dot }

/-- The settings that a merged value holds. -/
def ofValue (value : Value) : Except LoadError Settings := do
  let messages ← Messages.ofValue (← required "messages" (value.field? "messages"))
  let parser ← required "parser" (value.field? "parser")
  let maxDepth ← required "max_depth" (← Section.parser.read? Value.asNatural parser "max_depth")
  let output ← required "output" (value.field? "output")
  let format ← required "format" (← Section.output.read? Value.asText output "format")
  return ⟨messages, maxDepth, format⟩

/-- Settings as a value that they are read from. -/
def toValue (settings : Settings) : Value :=
  let text (s : String) : Value := .scalar none (.text s)
  .table none
    [("messages", .table none
        [("left_paren_shortage", text settings.messages.leftParenShortage),
          ("right_paren_shortage", text settings.messages.rightParenShortage),
          ("operator_invalid", text settings.messages.operatorInvalid),
          ("dot_invalid", text settings.messages.dotInvalid)]),
      ("parser", .table none [("max_depth", .scalar none (.integer settings.maxDepth))]),
      ("output", .table none [("format", text settings.format)])]

end ArithExpr.Settings
