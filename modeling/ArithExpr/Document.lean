import ArithExpr.Number.Double

/-!
# Documents

What is written out for other programs to read is first put into a document: a
value made of scalars, sequences, mappings with named entries, and values with a
tag in front that says which of several forms they have.  A notation such as JSON
or YAML is then a function on documents.
-/

namespace ArithExpr

/-- A value to be written in some notation.  The entries of a mapping keep their order. -/
inductive Document where
  | boolean (value : Bool)
  | natural (value : Nat)
  | double (value : Double)
  | text (value : String)
  | sequence (items : List Document)
  | mapping (entries : List (String × Document))
  | tagged (tag : String) (body : Document)

end ArithExpr
