import ArithExpr.Text.Digits
import ArithExpr.Text.Invisible

/-!
# Quoted texts

A message that shows a text puts it in double quotes.  Quotes and backslashes in it,
line ends, tabs and the null character have a backslash in front, and a character that
would not be seen is written as its number.
-/

namespace ArithExpr.Text

/-- The letter of a character with an escape of its own. -/
def escapeLetter? : Char → Option Char
  | '\x00' => some '0'
  | '\t' => some 't'
  | '\r' => some 'r'
  | '\n' => some 'n'
  | '\\' => some '\\'
  | '"' => some '"'
  | _ => none

/-- A character inside quotes. -/
def quotedChar (c : Char) : List Char :=
  match escapeLetter? c with
  | some letter => ['\\', letter]
  | none =>
    if isInvisible c then '\\' :: 'u' :: '{' :: (hex 1 c.toNat ++ ['}']) else [c]

/-- A text in quotes. -/
def quoted (text : String) : String :=
  String.ofList ('"' :: (text.toList.flatMap quotedChar ++ ['"']))

end ArithExpr.Text
