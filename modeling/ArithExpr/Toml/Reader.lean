/-!
# Readers

A reader takes something from the front of a text and gives what it took together
with the rest, or nothing if the text does not start with it.  This module holds the
small readers that the notation for settings is put together from: single characters,
spaces and comments, and repetition.

Line ends are single line feeds here.  `unifyBreaks` brings a text into that form; a
carriage return that it leaves is allowed nowhere.
-/

namespace ArithExpr.Toml

/-- Something taken from the front of a text, and the rest. -/
abbrev Reader (α : Type) : Type :=
  List Char → Option (α × List Char)

/-- A text without the carriage returns that a line feed follows. -/
def unifyBreaks (text : List Char) : List Char :=
  ((text.zip (text.drop 1 ++ [' '])).filter fun (c, next) => c ≠ '\r' || next ≠ '\n').map (·.1)

/-- The characters that separate words in a line. -/
def isSpace (c : Char) : Bool :=
  c = ' ' || c = '\t'

/-- The characters that comments and quoted texts are made of: all but the controls, of which the
tab alone is one. -/
def isContent (c : Char) : Bool :=
  c = '\t' || (0x20 ≤ c.toNat && c.toNat ≠ 0x7F)

/-- What follows the spaces in front. -/
def skipSpaces (text : List Char) : List Char :=
  text.dropWhile isSpace

/-- What follows a character. -/
def expect (c : Char) : List Char → Option (List Char)
  | [] => none
  | first :: rest => if first = c then some rest else none

/-- What follows all spaces, line ends and comments in front; `inComment` says that a comment has
begun. -/
def skipGapFrom : (inComment : Bool) → List Char → List Char
  | _, [] => []
  | true, c :: rest =>
    if c = '\n' then skipGapFrom false rest
    else if isContent c then skipGapFrom true rest
    else c :: rest
  | false, c :: rest =>
    if c = '#' then skipGapFrom true rest
    else if isSpace c || c = '\n' then skipGapFrom false rest
    else c :: rest

/-- What follows all spaces, line ends and comments in front. -/
def skipGap (text : List Char) : List Char :=
  skipGapFrom false text

/-- What follows the end of a line: spaces, a comment, and a line feed or the end of the text. -/
def endLine (text : List Char) : Option (List Char) :=
  let rest := match skipSpaces text with
    | '#' :: comment => comment.dropWhile isContent
    | other => other
  match rest with
  | [] => some []
  | first :: rest => if first = '\n' then some rest else none

/-- As many items as there are, but no more than `budget` has characters, behind those that have
been found, latest first. -/
def manyFrom {α : Type} (item : Reader α) (found : List α) :
    (budget : List Char) → List Char → List α × List Char
  | [], text => (found.reverse, text)
  | _ :: budget, text =>
    match item text with
    | none => (found.reverse, text)
    | some (a, rest) => manyFrom item (a :: found) budget rest

/-- As many items as there are, one after the other.  Each takes a character or more, so there are
no more items than characters. -/
def many {α : Type} (item : Reader α) (text : List Char) : List α × List Char :=
  manyFrom item [] text text

/-- One item or more, with a character between neighbours. -/
def separatedBy {α : Type} (separator : Char) (item : Reader α) : Reader (List α) := fun text => do
  let (first, rest) ← item text
  let (more, rest) := many (fun text => expect separator text >>= item) rest
  return (first :: more, rest)

end ArithExpr.Toml
