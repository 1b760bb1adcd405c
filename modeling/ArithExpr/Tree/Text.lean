import ArithExpr.Number.Layout
import ArithExpr.Tree

/-!
# Trees as text

A tree is written back as an expression: one space between neighbouring nodes,
parentheses around each group, and literals in the plain layout of numbers.
Scanning this text and reading the tokens gives the tree back, as long as its
literals are finite and have no sign.
-/

namespace ArithExpr

namespace Node

mutual

/-- A node as text. -/
def text : Node → String
  | .literal value => Layout.plain.write value
  | .operator op => op.symbol
  | .group children => "(" ++ " ".intercalate (texts children) ++ ")"

/-- The texts of a run of nodes. -/
def texts : List Node → List String
  | [] => []
  | node :: rest => node.text :: texts rest

end

/-- The texts of a run are those of its nodes. -/
theorem texts_eq_map (nodes : List Node) : texts nodes = nodes.map text := by
  induction nodes with
  | nil => rfl
  | cons node rest ih => simp [texts, ih]

end Node

/-- A tree as text, with no parentheses around the whole. -/
def Tree.text (tree : Tree) : String :=
  " ".intercalate (Node.texts tree.children)

end ArithExpr
