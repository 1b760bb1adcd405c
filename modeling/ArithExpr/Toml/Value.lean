import ArithExpr.Number.Double

/-!
# Values of the notation for settings
-/

namespace ArithExpr.Toml

/-- A value.  The names in a table differ from each other. -/
inductive Value where
  | text (s : String)
  | integer (n : Int)
  | float (d : Double)
  | boolean (b : Bool)
  /-- A date, a time or both, as its normal form. -/
  | date (s : String)
  | array (items : List Value)
  | table (entries : List (String × Value))

/-- A table: its names and what each stands for. -/
abbrev Table : Type :=
  List (String × Value)

end ArithExpr.Toml
