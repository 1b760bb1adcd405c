import ArithExpr.Number.Numeral
import ArithExpr.Text.Digits

/-!
# Texts with an implicit meaning

A YAML reader takes a plain scalar for null, a boolean, an integer or a float if
it is spelled like one, and only otherwise for a text.  A text that is spelled so
has to be quoted to stay a text.
-/

namespace ArithExpr.Yaml

/-- The spellings of null; nothing at all is one of them. -/
def isNull (text : String) : Bool :=
  ["", "~", "null", "Null", "NULL"].contains text

/-- The spellings of the booleans. -/
def isBoolean (text : String) : Bool :=
  ["true", "True", "TRUE", "false", "False", "FALSE"].contains text

/-- An integer with a base mark, as long as it fits in 128 bits. -/
def isBasedInteger (text : List Char) : Bool :=
  let (negative, body) := Numeral.takeSign text
  let limit := if negative then Nat.pow 2 127 + 1 else Nat.pow 2 128
  let value := match body with
    | '0' :: 'x' :: digits => Text.ofDigits? 16 digits
    | '0' :: 'o' :: digits => Text.ofDigits? 8 digits
    | '0' :: 'b' :: digits => Text.ofDigits? 2 digits
    | _ => none
  value.any (· < limit)

/-- A digit run with a zero in front; whether it is a number differs between readers. -/
def isZeroLed (text : List Char) : Bool :=
  match (Numeral.takeSign text).2 with
  | '0' :: c :: rest => (c :: rest).all Char.isDigit
  | _ => false

/-- A finite decimal number, whole or not. -/
def isDecimal (text : List Char) : Bool :=
  match Numeral.double? text with
  | some (.finite _ _) => true
  | _ => false

/-- The spellings of the infinities and of NaN. -/
def isSpecialFloat (text : String) : Bool :=
  [".inf", ".Inf", ".INF", "+.inf", "+.Inf", "+.INF", "-.inf", "-.Inf", "-.INF",
    ".nan", ".NaN", ".NAN"].contains text

/-- Whether a plain scalar spelled like this may be read as something else than a text. -/
def hasImplicitMeaning (text : String) : Bool :=
  isNull text || isBoolean text || isSpecialFloat text || isZeroLed text.toList ||
    isBasedInteger text.toList || isDecimal text.toList

end ArithExpr.Yaml
