import ArithExpr.Number.Layout
import ArithExpr.Tree

/-!
# Drawings of trees

A tree is drawn with one line for each node, in the order of its paths.  A line
holds a margin with two columns for each group around the node, a connector, an
icon for the node's form and a label.  A margin column is a bar while more nodes
follow in the run it stands for, and empty once that run has come to its last
node; the connector tells whether the node is the last of its own run.
-/

namespace ArithExpr

namespace Node

/-- The icon of a node's form. -/
def icon : Node → String
  | .group _ => "⊏"
  | .literal _ => "#"
  | .operator op => if op.isMultiplicative then "×" else "±"

/-- The number of nodes in a run, in words. -/
def countLabel (count : Nat) : String :=
  if count = 1 then "1 node" else toString count ++ " nodes"

/-- What a line says about a node: its value, its symbol, or how many nodes a group holds. -/
def label : Node → String
  | .group children => countLabel children.length
  | .literal value => Layout.plain.write value
  | .operator op => op.symbol

/-- The connector of a node, by whether it is the last of its run. -/
def connector (isLast : Bool) : String :=
  if isLast then "└─" else "├─"

/-- The margin below a node, by whether it is the last of its run. -/
def marginBelow (isLast : Bool) : String :=
  if isLast then "  " else "│ "

/-- The line of a single node. -/
def line (margin : String) (isLast : Bool) (node : Node) : String :=
  margin ++ connector isLast ++ " " ++ node.icon ++ " " ++ node.label

mutual

/-- The lines of a node and of everything inside it. -/
def lines (margin : String) (isLast : Bool) : Node → List String
  | .group children =>
    line margin isLast (.group children) :: linesOfAll (margin ++ marginBelow isLast) children
  | node => [line margin isLast node]

/-- The lines of a run of nodes and of everything inside them. -/
def linesOfAll (margin : String) : List Node → List String
  | [] => []
  | node :: rest => node.lines margin rest.isEmpty ++ linesOfAll margin rest

end

end Node

/-- The drawing of a tree: a heading and the lines of its nodes, each ended by a line feed. -/
def Tree.drawing (tree : Tree) : String :=
  String.join (("⧉ expression" :: Node.linesOfAll "" tree.children).map fun line => line ++ "\n")

end ArithExpr
