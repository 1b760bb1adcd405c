import ArithExpr.Text.Blank
import ArithExpr.Token

/-!
# Streams written as words

A token stream can be written down as words between blanks.  Unlike a scanned
source this notation can hold an end marker, written `$`, and a word of several
characters that is no number stands for a single unknown token.
-/

namespace ArithExpr.Token

/-- The maximal runs of characters that are not blank. -/
def words (text : List Char) : List (List Char) :=
  (text.splitBy fun left right => Text.isBlank left == Text.isBlank right).filter fun run =>
    run.head?.any fun c => !Text.isBlank c

/-- The token that a word stands for: `$` is the end marker, a run of digits a number, a single
character its entry in the operator table, and any longer word is unknown. -/
def ofWord (word : List Char) : Token :=
  if word = ['$'] then endOfStream
  else if word.all Char.isDigit then ⟨.number, String.ofList word⟩
  else match word with
    | [c] => ⟨.ofSymbol c, String.ofList word⟩
    | _ => ⟨.unknown, String.ofList word⟩

/-- The stream that a text of words stands for. -/
def ofSymbols (text : String) : List Token :=
  (words text.toList).map ofWord

end ArithExpr.Token
