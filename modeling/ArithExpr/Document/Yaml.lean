import ArithExpr.Document
import ArithExpr.Document.Yaml.Scalar
import ArithExpr.Number.Layout

/-!
# Documents as YAML

A document is written in block style.  The items of a sequence start with a dash
and the entries of a mapping with a key and a colon; what belongs to them stands
two columns further in, except that the dashes of a sequence under a key stand
below the key.  An empty collection is `[]` or `{}`.  A tag starts with `!`.
-/

namespace ArithExpr.Document

/-- Numbers in YAML: as in JSON, but an exponent without `+`, and words for infinities and NaN. -/
def yamlNumbers : Layout where
  tie := .even
  positional := some (-5, 16)
  keepsPoint := true
  signsExponent := false
  positiveInfinity := ".inf"
  negativeInfinity := "-.inf"
  nan := ".nan"

/-- What a node stands behind: the dash of an item, or the colon of an entry. -/
inductive YamlHolder where
  | dash
  | colon
  deriving DecidableEq

/-- Spaces up to a column. -/
def yamlMargin (column : Nat) : String :=
  String.ofList (Yaml.margin column)

mutual

/-- What is written behind the mark of an item or entry whose mark starts at `column`.  A
collection begins on the same line only right behind a dash; `tagged` says that a tag stands
between. -/
def yamlNode (column : Nat) (holder : YamlHolder) (tagged : Bool) : Document → List String
  | .boolean value => [if value then " true\n" else " false\n"]
  | .natural value => [" ", toString value, "\n"]
  | .double value => [" ", yamlNumbers.write value, "\n"]
  | .text value => [" ", Yaml.scalar (column + 2) value]
  | .sequence [] => [" []\n"]
  | .sequence (item :: rest) =>
    let inner := if holder = .colon then column else column + 2
    if holder = .dash && !tagged then " " :: yamlItems inner true (item :: rest)
    else "\n" :: yamlItems inner false (item :: rest)
  | .mapping [] => [" \x7b\x7d\n"]
  | .mapping (entry :: rest) =>
    if holder = .dash && !tagged then " " :: yamlEntries (column + 2) true (entry :: rest)
    else "\n" :: yamlEntries (column + 2) false (entry :: rest)
  | .tagged tag body => " !" :: tag :: yamlNode column holder true body

/-- The items of a sequence whose dashes stand at `column`; `onLine` says that the first one goes
on with a line. -/
def yamlItems (column : Nat) (onLine : Bool) : List Document → List String
  | [] => []
  | item :: rest =>
    (if onLine then "-" else yamlMargin column ++ "-") ::
      (yamlNode column .dash false item ++ yamlItems column false rest)

/-- The entries of a mapping whose keys start at `column`; `onLine` says that the first one goes on
with a line.  Keys are names that need no quotes. -/
def yamlEntries (column : Nat) (onLine : Bool) : List (String × Document) → List String
  | [] => []
  | (key, value) :: rest =>
    (if onLine then key ++ ":" else yamlMargin column ++ key ++ ":") ::
      (yamlNode column .colon false value ++ yamlEntries column false rest)

end

/-- A document as YAML, ending in a line feed. -/
def yaml : Document → String
  | .sequence (item :: rest) => String.join (yamlItems 0 false (item :: rest))
  | .mapping (entry :: rest) => String.join (yamlEntries 0 false (entry :: rest))
  | document => ((String.join (yamlNode 0 .colon false document)).drop 1).toString

end ArithExpr.Document
