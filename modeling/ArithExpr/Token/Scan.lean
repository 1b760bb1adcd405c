import ArithExpr.Text.Blank
import ArithExpr.Token

/-!
# Reading tokens from text

A source is first cut into *pieces*: each maximal run of ASCII digits is one piece
and every other character is a piece by itself.  The pieces in order are the
source, so nothing is lost or read twice.  A blank piece is dropped and any other
one becomes a token at the byte range it takes.

Cutting looks at two neighbouring characters at a time and joins them only when
both are digits; two sources can therefore be scanned apart unless a digit run
crosses their border.
-/

namespace ArithExpr.Token

/-- A token and the range of UTF-8 bytes, `stop` excluded, that it takes in the source. -/
structure Located where
  token : Token
  start : Nat
  stop : Nat
  deriving DecidableEq

/-- The maximal digit runs and single characters of a source, in order. -/
def pieces (source : List Char) : List (List Char) :=
  source.splitBy fun left right => left.isDigit && right.isDigit

/-- The printable characters of ASCII other than the space. -/
def isGraphic (c : Char) : Bool :=
  '!' ≤ c && c ≤ '~'

/-- The kind of a character that is neither a digit nor blank: its entry in the operator table
if it is printable ASCII, and `illegal` if not. -/
def Kind.ofCharacter (c : Char) : Kind :=
  if isGraphic c then .ofSymbol c else .illegal

/-- The token of a piece, if it is not blank. -/
def ofPiece? : List Char → Option Token
  | [] => none
  | c :: rest =>
    if c.isDigit then some ⟨.number, String.ofList (c :: rest)⟩
    else if Text.isBlank c then none
    else some ⟨.ofCharacter c, String.ofList (c :: rest)⟩

/-- How many bytes a piece takes in UTF-8. -/
def pieceSize (piece : List Char) : Nat :=
  piece.foldr (fun c size => c.utf8Size + size) 0

/-- Read pieces from an offset on; the tokens found are in front of `found`, latest first. -/
def locateFrom (offset : Nat) (found : List Located) : List (List Char) → List Located
  | [] => found.reverse
  | piece :: rest =>
    let stop := offset + pieceSize piece
    match ofPiece? piece with
    | some token => locateFrom stop (⟨token, offset, stop⟩ :: found) rest
    | none => locateFrom stop found rest

/-- The tokens of a source, each with its byte range. -/
def scanLocated (source : String) : List Located :=
  locateFrom 0 [] (pieces source.toList)

/-- The tokens of a source. -/
def scan (source : String) : List Token :=
  (scanLocated source).map Located.token

/-- What was found before stays in front of what is found later. -/
theorem locateFrom_eq_append (offset : Nat) (found : List Located) (ps : List (List Char)) :
    locateFrom offset found ps = found.reverse ++ locateFrom offset [] ps := by
  induction ps generalizing offset found with
  | nil => simp [locateFrom]
  | cons piece rest ih =>
    simp only [locateFrom]
    cases ofPiece? piece with
    | none => exact ih _ found
    | some token =>
      simp only
      rw [ih _ (_ :: found), ih _ [_]]
      simp

/-- An empty source has no tokens. -/
@[simp] theorem scan_empty : scan "" = [] := rfl

end ArithExpr.Token
