import ArithExpr.Toml.Entries
import ArithExpr.Toml.MarkedDate
import ArithExpr.Toml.Number

/-!
# Documents of settings

A document is a sequence of lines.  A line gives a key a value, or is a header that
says which table the lines after it belong to; spaces, empty lines and comments have
no meaning.  Reading goes in two steps: the text is cut into `Section`s, each a header
with the pairs under it, and the sections are put together to one table.
-/

namespace ArithExpr.Toml

/-! ### Values -/

/-- A key with its value. -/
abbrev Pair : Type :=
  List String × Value

/-- The word of a truth value. -/
def boolean : Reader Value
  | 't' :: 'r' :: 'u' :: 'e' :: rest => some (.boolean true, rest)
  | 'f' :: 'a' :: 'l' :: 's' :: 'e' :: rest => some (.boolean false, rest)
  | _ => none

/-- A value without parts. -/
def simpleValue : Reader Value := fun text =>
  match text with
  | [] => none
  | c :: _ =>
    if c = '"' || c = '\'' then (quotedText text).map fun (s, rest) => (.text s, rest)
    else if c = 't' || c = 'f' then boolean text
    else match date .inDocument text with
      | some (s, rest) => some (.date s, rest)
      | none => number text

/-- The items of an array, read behind its bracket.  Line ends and comments may stand between
them, and a comma behind the last. -/
def arrayItems (item : Reader Value) : Reader Value := fun text => do
  let element : Reader Value := fun text =>
    (item (skipGap text)).map fun (value, rest) => (value, skipGap rest)
  let (items, rest) := (separatedBy ',' element text).getD ([], text)
  let rest := if items.isEmpty then rest else (expect ',' rest).getD rest
  let rest ← expect ']' (skipGap rest)
  return (.array items, rest)

/-- A key, an equals sign and a value. -/
def pair (value : Reader Value) : Reader Pair := fun text => do
  let (name, rest) ← key text
  let (content, rest) ← value (skipSpaces (← expect '=' rest))
  return ((name, content), rest)

/-- The pairs of a table on one line, read behind its brace. -/
def inlineTable (value : Reader Value) : Reader Value := fun text => do
  let entry : Reader Pair := fun text =>
    (pair value text).map fun (entry, rest) => (entry, skipSpaces rest)
  let (pairs, rest) := (separatedBy ',' entry text).getD ([], text)
  let rest ← expect '}' (skipSpaces rest)
  let entries ← Entries.addKeys pairs []
  return (.table (Entries.finished entries), rest)

/-- A value, with arrays and tables inside each other up to a number of levels. -/
def value : Nat → Reader Value
  | 0, text => simpleValue text
  | levels + 1, text =>
    match text with
    | '[' :: rest => arrayItems (value levels) rest
    | '{' :: rest => inlineTable (value levels) rest
    | text => simpleValue text

/-! ### Lines -/

/-- A line with a meaning. -/
inductive Line where
  | pair (pair : Pair)
  | tableHeader (key : List String)
  | elementHeader (key : List String)

/-- A line, or nothing for a line that has no meaning. -/
def line : Reader (Option Line) := fun text =>
  match skipSpaces text with
  | [] => none
  | '[' :: '[' :: rest => do
    let (name, rest) ← key rest
    let rest ← endLine (← expect ']' (← expect ']' rest))
    return (some (.elementHeader name), rest)
  | '[' :: rest => do
    let (name, rest) ← key rest
    let rest ← endLine (← expect ']' rest)
    return (some (.tableHeader name), rest)
  | rest =>
    if rest.head?.any fun c => c = '#' || c = '\n' then (endLine rest).map fun rest => (none, rest)
    else do
      let (entry, rest) ← pair (value (nestingLimit - 1)) rest
      let rest ← endLine rest
      return (some (.pair entry), rest)

/-- The lines of a text, if it has nothing but lines. -/
def lines? (text : List Char) : Option (List Line) :=
  let (found, rest) := many line text
  if (skipSpaces rest).isEmpty then some (found.filterMap id) else none

/-! ### Sections -/

/-- A header and the pairs under it. -/
structure Section where
  /-- Whether the table is added to an array of tables. -/
  isElement : Bool
  key : List String
  pairs : List Pair

/-- The pairs in front of the first header, and the sections. -/
def sections (lines : List Line) : List Pair × List Section :=
  lines.foldr
    (fun line (pairs, found) =>
      match line with
      | .pair entry => (entry :: pairs, found)
      | .tableHeader name => ([], ⟨false, name, pairs⟩ :: found)
      | .elementHeader name => ([], ⟨true, name, pairs⟩ :: found))
    ([], [])

/-- Add a section to what has been put together. -/
def Entries.addSection (entries : Entries) (part : Section) : Option Entries :=
  match part.key.getLast? with
  | none => none
  | some name =>
    if part.isElement then entries.addElement part.key.dropLast name part.pairs
    else entries.addTable part.key.dropLast name part.pairs

/-- What follows a byte order mark, if a text starts with one. -/
def skipOrderMark : List Char → List Char
  | '\uFEFF' :: rest => rest
  | text => text

/-- The table that a document holds, if it has no fault.  A date in place of the whole table is a
fault. -/
def read? (text : String) : Option Table := do
  let lines ← lines? (skipOrderMark (unifyBreaks text.toList))
  let (pairs, parts) := sections lines
  let entries ← Entries.addKeys pairs []
  let entries ← parts.foldlM Entries.addSection entries
  match ← (Value.table (Entries.finished entries)).withDates with
  | .table content => some content
  | _ => none

end ArithExpr.Toml
