import ArithExpr.Document.Yaml.Implicit
import ArithExpr.Text.Digits

/-!
# Texts as YAML scalars

A text can be written in four styles.  *Plain* is the text as it is; *single
quoted* doubles each quote in it; *double quoted* has escapes and can hold
anything; *literal* puts the lines of the text below, each indented.

The style is the first that can hold the text: literal for a text with a line
feed, single quotes for a text that would be read as something else, and otherwise
plain, with single quotes next.  Double quotes are always left.
-/

namespace ArithExpr.Yaml

/-- The characters that end a line. -/
def isBreak (c : Char) : Bool :=
  c = '\n' || c = '\r' || c.toNat = 0x85 || c.toNat = 0x2028 || c.toNat = 0x2029

/-- The characters that can stand in a scalar without an escape. -/
def isPrintable (c : Char) : Bool :=
  let n := c.toNat
  n = 0x0A || (0x20 ≤ n && n ≤ 0x7E) || (0xA0 ≤ n && n ≠ 0xFEFF && n ≠ 0xFFFE && n ≠ 0xFFFF)

/-- The characters that separate a scalar from what follows it. -/
def isSeparator (c : Char) : Bool :=
  c = ' ' || c = '\t' || c = Char.ofNat 0 || isBreak c

/-- The characters that start something else than a plain scalar. -/
def opensOther (c : Char) : Bool :=
  "#,[]\x7b\x7d&*!|>'\"%@`".toList.contains c

/-- Whether the rest of a plain scalar holds an indicator: a colon in front of a separator or at
the end, or a hash behind a separator. -/
def holdsIndicator : (before : Char) → List Char → Bool
  | _, [] => false
  | before, c :: rest =>
    (c = ':' && rest.head?.all isSeparator) || (c = '#' && isSeparator before) ||
      holdsIndicator c rest

/-- Whether a text would be taken for something else than a plain scalar from its marks. -/
def hasIndicator : List Char → Bool
  | [] => false
  | c :: rest =>
    opensOther c || ((c = '?' || c = ':' || c = '-') && rest.head?.all isSeparator) ||
      ['-', '-', '-'].isPrefixOf (c :: rest) || ['.', '.', '.'].isPrefixOf (c :: rest) ||
      holdsIndicator c rest

/-- Whether two neighbouring characters of a text satisfy a relation. -/
def anyNeighbours (p : Char → Char → Bool) (text : List Char) : Bool :=
  (text.zip (text.drop 1)).any fun (left, right) => p left right

/-- Whether every character of a text needs no escape and no line ends in a space. -/
def isClean (text : List Char) : Bool :=
  text.all isPrintable && !anyNeighbours (fun left right => left = ' ' && isBreak right) text

/-- Whether single quotes can hold a text: besides, no line after the first starts with a space. -/
def fitsSingleQuotes (text : List Char) : Bool :=
  isClean text && !anyNeighbours (fun left right => isBreak left && right = ' ') text

/-- Whether a text can be written without quotes. -/
def fitsPlain (text : List Char) : Bool :=
  text.all isPrintable && !text.any isBreak && text.head? ≠ some ' ' && text.getLast? ≠ some ' ' &&
    !hasIndicator text

/-- Whether a text can be written as a literal block. -/
def fitsLiteral (text : List Char) : Bool :=
  isClean text && text.getLast?.any (· ≠ ' ')

/-- Spaces up to a column. -/
def margin (column : Nat) : List Char :=
  List.replicate column ' '

/-- The lines of a text from a margin on; `atBreak` says that a line has just ended.  Quotes in the
text are replaced by `quote`. -/
def linesFrom (column : Nat) (quote : List Char) : (atBreak : Bool) → List Char → List Char
  | _, [] => []
  | atBreak, c :: rest =>
    if isBreak c then c :: linesFrom column quote true rest
    else (if atBreak then margin column else []) ++ (if c = '\'' then quote else [c]) ++
      linesFrom column quote false rest

/-- A text in single quotes; its lines after the first are indented to a column. -/
def singleQuoted (column : Nat) (text : List Char) : List Char :=
  let tail := if text.getLast?.any isBreak then margin column else []
  '\'' :: (linesFrom column ['\'', '\''] false text ++ tail ++ ['\''])

/-- The letter of a character with an escape of its own. -/
def escapeLetter? (c : Char) : Option Char :=
  match c.toNat with
  | 0x00 => some '0'
  | 0x07 => some 'a'
  | 0x08 => some 'b'
  | 0x09 => some 't'
  | 0x0A => some 'n'
  | 0x0B => some 'v'
  | 0x0C => some 'f'
  | 0x0D => some 'r'
  | 0x1B => some 'e'
  | 0x22 => some '"'
  | 0x5C => some '\\'
  | 0x85 => some 'N'
  | 0x2028 => some 'L'
  | 0x2029 => some 'P'
  | _ => none

/-- A character inside double quotes. -/
def escaped (c : Char) : List Char :=
  if isPrintable c && !isBreak c && c ≠ '"' && c ≠ '\\' then [c]
  else match escapeLetter? c with
    | some letter => ['\\', letter]
    | none =>
      let n := c.toNat
      let digits (width : Nat) := (Text.hex width n).map Char.toUpper
      if n ≤ 0xFF then '\\' :: 'x' :: digits 2
      else if n ≤ 0xFFFF then '\\' :: 'u' :: digits 4
      else '\\' :: 'U' :: digits 8

/-- A text in double quotes. -/
def doubleQuoted (text : List Char) : List Char :=
  '"' :: (text.flatMap escaped ++ ['"'])

/-- The mark behind the bar of a literal block: the indentation if the text itself starts with a
space or an empty line, then `-` if its last line is not ended, and `+` if empty lines follow. -/
def literalMark (text : List Char) : List Char :=
  let indentation := if text.head?.any fun c => c = ' ' || isBreak c then ['2'] else []
  let ending := match text.reverse with
    | [] => ['-']
    | [last] => if isBreak last then ['+'] else ['-']
    | last :: previous :: _ =>
      if !isBreak last then ['-'] else if isBreak previous then ['+'] else []
  indentation ++ ending

/-- A text as a literal block with its lines indented to a column. -/
def literalBlock (column : Nat) (text : List Char) : List Char :=
  '|' :: (literalMark text ++ '\n' :: linesFrom column ['\''] true text)

/-- End a line unless it is ended already. -/
def endLine (text : List Char) : List Char :=
  if text.getLast?.any isBreak then text else text ++ ['\n']

/-- A text as a scalar that ends its line; further lines are indented to a column. -/
def scalar (column : Nat) (text : String) : String :=
  let cs := text.toList
  String.ofList <| endLine <|
    if cs.contains '\n' then
      if fitsLiteral cs then literalBlock column cs else doubleQuoted cs
    else if !hasImplicitMeaning text && fitsPlain cs then cs
    else if fitsSingleQuotes cs then singleQuoted column cs
    else doubleQuoted cs

end ArithExpr.Yaml
