import ArithExpr.Text.Digits
import ArithExpr.Toml.Reader

/-!
# Quoted texts and keys

A text is quoted in one of four ways.  In double quotes a backslash starts an escape;
in single quotes every character stands for itself.  Either quote written three times
encloses a text of several lines, whose first line end does not count if it comes at
once.  One or two quotes may stand anywhere in such a text, also at its end.

A key is a word of letters, digits, `_` and `-`, or a quoted text of one line.
-/

namespace ArithExpr.Toml

/-- The character whose number is written by the first `width` characters. -/
def numbered (width : Nat) : Reader Char := fun text =>
  let digits := text.take width
  match Text.ofDigits? 16 digits with
  | some code =>
    if digits.length = width && code.isValidChar then some (Char.ofNat code, text.drop width)
    else none
  | none => none

/-- The character that an escape stands for, read behind the backslash. -/
def escape : Reader Char
  | 'b' :: rest => some ('\x08', rest)
  | 't' :: rest => some ('\t', rest)
  | 'n' :: rest => some ('\n', rest)
  | 'f' :: rest => some ('\x0c', rest)
  | 'r' :: rest => some ('\r', rest)
  | '"' :: rest => some ('"', rest)
  | '\\' :: rest => some ('\\', rest)
  | 'u' :: rest => numbered 4 rest
  | 'U' :: rest => numbered 8 rest
  | _ => none

theorem length_le_of_numbered {width : Nat} {text rest : List Char} {c : Char}
    (h : numbered width text = some (c, rest)) : rest.length ≤ text.length := by
  simp only [numbered] at h
  split at h
  · split at h
    · simp only [Option.some.injEq, Prod.mk.injEq] at h
      simp [← h.2]
    · cases h
  · cases h

/-- An escape takes at least one character. -/
theorem length_lt_of_escape {text rest : List Char} {c : Char}
    (h : escape text = some (c, rest)) : rest.length < text.length := by
  unfold escape at h
  split at h
  case h_8 => exact Nat.lt_succ_of_le (length_le_of_numbered h)
  case h_9 => exact Nat.lt_succ_of_le (length_le_of_numbered h)
  case h_10 => cases h
  all_goals
    simp only [Option.some.injEq, Prod.mk.injEq] at h
    simp [← h.2]

/-- The rest of a text in double quotes on one line; `read` holds what has been read, latest
first. -/
def lineFrom (read : List Char) (text : List Char) : Option (String × List Char) :=
  match text with
  | [] => none
  | '"' :: rest => some (String.ofList read.reverse, rest)
  | '\\' :: rest =>
    match h : escape rest with
    | some (c, rest') =>
      have := length_lt_of_escape h
      lineFrom (c :: read) rest'
    | none => none
  | c :: rest => if isContent c then lineFrom (c :: read) rest else none
termination_by text.length

/-- What follows a line end behind a backslash and spaces, up to the next character that is neither
a space nor a line end. -/
def continued? (text : List Char) : Option (List Char) :=
  match skipSpaces text with
  | '\n' :: rest => some (rest.dropWhile fun c => isSpace c || c = '\n')
  | _ => none

/-- A line continuation takes at least one character. -/
theorem length_lt_of_continued {text rest : List Char} (h : continued? text = some rest) :
    rest.length < text.length := by
  unfold continued? at h
  split at h
  · rename_i after heq
    have h₁ : (skipSpaces text).length ≤ text.length := (List.dropWhile_suffix _).length_le
    have h₂ := (List.dropWhile_suffix (fun c => isSpace c || decide (c = '\n'))
      (l := after)).length_le
    rw [heq, List.length_cons] at h₁
    cases h
    omega
  · cases h

/-- The rest of a text of several lines in double quotes. -/
def linesFrom (read : List Char) (text : List Char) : Option (String × List Char) :=
  match text with
  | [] => none
  | '"' :: '"' :: '"' :: '"' :: '"' :: rest =>
    some (String.ofList ('"' :: '"' :: read).reverse, rest)
  | '"' :: '"' :: '"' :: '"' :: rest => some (String.ofList ('"' :: read).reverse, rest)
  | '"' :: '"' :: '"' :: rest => some (String.ofList read.reverse, rest)
  | '\\' :: rest =>
    match h : continued? rest with
    | some rest' =>
      have := length_lt_of_continued h
      linesFrom read rest'
    | none =>
      match h : escape rest with
      | some (c, rest') =>
        have := length_lt_of_escape h
        linesFrom (c :: read) rest'
      | none => none
  | c :: rest => if isContent c || c = '\n' then linesFrom (c :: read) rest else none
termination_by text.length

/-- The rest of a text in single quotes on one line. -/
def literalFrom (read : List Char) : List Char → Option (String × List Char)
  | [] => none
  | '\'' :: rest => some (String.ofList read.reverse, rest)
  | c :: rest => if isContent c then literalFrom (c :: read) rest else none

/-- The rest of a text of several lines in single quotes. -/
def literalLinesFrom (read : List Char) : List Char → Option (String × List Char)
  | [] => none
  | '\'' :: '\'' :: '\'' :: '\'' :: '\'' :: rest =>
    some (String.ofList ('\'' :: '\'' :: read).reverse, rest)
  | '\'' :: '\'' :: '\'' :: '\'' :: rest => some (String.ofList ('\'' :: read).reverse, rest)
  | '\'' :: '\'' :: '\'' :: rest => some (String.ofList read.reverse, rest)
  | c :: rest => if isContent c || c = '\n' then literalLinesFrom (c :: read) rest else none

/-- What follows a line end, if a text starts with one. -/
def skipFirstBreak : List Char → List Char
  | '\n' :: rest => rest
  | text => text

/-- A quoted text. -/
def quotedText : Reader String
  | '"' :: '"' :: '"' :: rest => linesFrom [] (skipFirstBreak rest)
  | '\'' :: '\'' :: '\'' :: rest => literalLinesFrom [] (skipFirstBreak rest)
  | '"' :: rest => lineFrom [] rest
  | '\'' :: rest => literalFrom [] rest
  | _ => none

/-- The characters of a key without quotes. -/
def isKeyChar (c : Char) : Bool :=
  c.isAlphanum || c = '_' || c = '-'

/-- One part of a key. -/
def keyPart : Reader String
  | '"' :: rest => lineFrom [] rest
  | '\'' :: rest => literalFrom [] rest
  | text =>
    let word := text.takeWhile isKeyChar
    if word.isEmpty then none else some (String.ofList word, text.dropWhile isKeyChar)

/-- How many parts of a key, and how many arrays and tables around each other, are too many. -/
def nestingLimit : Nat :=
  80

/-- The parts of a key, in order; a point stands between neighbours, and spaces may stand around
each. -/
def key : Reader (List String) := fun text => do
  let (parts, rest) ← separatedBy '.'
    (fun text => (keyPart (skipSpaces text)).map fun (part, rest) => (part, skipSpaces rest)) text
  if parts.length < nestingLimit then return (parts, rest) else none

end ArithExpr.Toml
