import ArithExpr.Document
import ArithExpr.Number.Layout
import ArithExpr.Text.Digits

/-!
# Documents as JSON

A document is written as JSON either compactly, without any blanks, or with every
item and entry on a line of its own, two spaces deeper than what holds it.  An
empty collection takes no line.  A tagged value is an object with the tag as its
only key.  Infinities and NaN, which JSON cannot say, become `null`.
-/

namespace ArithExpr.Document

/-- Numbers in JSON: the leading digit's exponent is shown below -5 and from 16 on, with its sign,
and a whole number keeps its point. -/
def jsonNumbers : Layout where
  tie := .even
  positional := some (-5, 16)
  keepsPoint := true
  signsExponent := true
  positiveInfinity := "null"
  negativeInfinity := "null"
  nan := "null"

/-- A character inside a quoted text: quotes, backslashes and control characters are escaped. -/
def jsonCharacter (c : Char) : List Char :=
  if c = '"' then ['\\', '"']
  else if c = '\\' then ['\\', '\\']
  else if 0x20 ≤ c.toNat then [c]
  else match c.toNat with
    | 0x08 => ['\\', 'b']
    | 0x09 => ['\\', 't']
    | 0x0A => ['\\', 'n']
    | 0x0C => ['\\', 'f']
    | 0x0D => ['\\', 'r']
    | n => '\\' :: 'u' :: Text.hex 4 n

/-- A text in quotes. -/
def jsonText (text : String) : String :=
  String.ofList ('"' :: (text.toList.flatMap jsonCharacter ++ ['"']))

/-- How a collection is spread over lines: what stands in front of an item at a depth, and what
stands between a key and its value. -/
structure JsonSpacing where
  line : Nat → String
  colon : String

/-- Everything on one line, without blanks. -/
def JsonSpacing.compact : JsonSpacing :=
  ⟨fun _ => "", ":"⟩

/-- A line for each item, indented by two spaces for each collection around it. -/
def JsonSpacing.spread : JsonSpacing :=
  ⟨fun depth => "\n".pushn ' ' (2 * depth), ": "⟩

mutual

/-- The pieces of text that a document at a depth is written with, in order. -/
def jsonPieces (spacing : JsonSpacing) (depth : Nat) : Document → List String
  | .boolean value => [if value then "true" else "false"]
  | .natural value => [toString value]
  | .double value => [jsonNumbers.write value]
  | .text value => [jsonText value]
  | .sequence [] => ["[]"]
  | .sequence (item :: rest) =>
    "[" :: (jsonItems spacing (depth + 1) (item :: rest) ++ [spacing.line depth, "]"])
  | .mapping [] => ["\x7b\x7d"]
  | .mapping (entry :: rest) =>
    "\x7b" :: (jsonEntries spacing (depth + 1) (entry :: rest) ++ [spacing.line depth, "\x7d"])
  | .tagged tag body =>
    "\x7b" :: spacing.line (depth + 1) :: jsonText tag :: spacing.colon ::
      (jsonPieces spacing (depth + 1) body ++ [spacing.line depth, "\x7d"])

/-- The pieces of the items of a sequence, with commas between them. -/
def jsonItems (spacing : JsonSpacing) (depth : Nat) : List Document → List String
  | [] => []
  | item :: rest =>
    spacing.line depth :: (jsonPieces spacing depth item ++
      (if rest.isEmpty then [] else [","]) ++ jsonItems spacing depth rest)

/-- The pieces of the entries of a mapping, with commas between them. -/
def jsonEntries (spacing : JsonSpacing) (depth : Nat) : List (String × Document) → List String
  | [] => []
  | (key, value) :: rest =>
    spacing.line depth :: jsonText key :: spacing.colon :: (jsonPieces spacing depth value ++
      (if rest.isEmpty then [] else [","]) ++ jsonEntries spacing depth rest)

end

/-- A document as JSON without blanks. -/
def json (document : Document) : String :=
  String.join (jsonPieces .compact 0 document)

/-- A document as JSON on several lines. -/
def prettyJson (document : Document) : String :=
  String.join (jsonPieces .spread 0 document)

end ArithExpr.Document
