import ArithExpr.Number.Double

/-!
# Expression trees

A tree is a flat run of nodes: literals, operators and nested groups in the order
in which they were written.  Precedence is not part of its shape; an evaluator
reads it off the operators and their places, and a `-` with no operand in front of
it is a negation.

Definitions on trees are given for a node and for a run of nodes together.
-/

namespace ArithExpr

/-- The four arithmetic operators. -/
inductive Operator where
  | multiply
  | divide
  | plus
  | minus
  deriving DecidableEq

namespace Operator

/-- The character that an operator is written as. -/
def symbol : Operator → String
  | .multiply => "*"
  | .divide => "/"
  | .plus => "+"
  | .minus => "-"

/-- `*` and `/` bind before `+` and `-`. -/
def isMultiplicative : Operator → Bool
  | .multiply | .divide => true
  | .plus | .minus => false

end Operator

/-- An element of a run: a number, an operator, or a run in parentheses. -/
inductive Node where
  | literal (value : Double)
  | operator (op : Operator)
  | group (children : List Node)

/-- A whole expression: the run of its outermost nodes. -/
structure Tree where
  children : List Node

namespace Node

/-- The name of a node's form. -/
def form : Node → String
  | .literal _ => "Literal"
  | .operator op => if op.isMultiplicative then "MultiplicativeOp" else "AdditiveOp"
  | .group _ => "Group"

/-- Whether a node is an operator. -/
def isOperator : Node → Bool
  | .operator _ => true
  | _ => false

/-- The value of a literal. -/
def value? : Node → Option Double
  | .literal value => some value
  | _ => none

/-- The operator that a node is. -/
def operator? : Node → Option Operator
  | .operator op => some op
  | _ => none

/-- The run inside a group. -/
def group? : Node → Option Tree
  | .group children => some ⟨children⟩
  | _ => none

mutual

/-- How many groups enclose the innermost one of a node, itself included: zero without a group. -/
def depth : Node → Nat
  | .group children => depthOfAll children + 1
  | _ => 0

/-- The greatest depth in a run. -/
def depthOfAll : List Node → Nat
  | [] => 0
  | node :: rest => max node.depth (depthOfAll rest)

end

@[simp] theorem depth_literal (value : Double) : (literal value).depth = 0 := by
  simp [depth]

@[simp] theorem depth_operator (op : Operator) : (operator op).depth = 0 := by
  simp [depth]

@[simp] theorem depth_group (children : List Node) :
    (group children).depth = depthOfAll children + 1 := by
  rw [depth]

@[simp] theorem depthOfAll_nil : depthOfAll [] = 0 := by
  rw [depthOfAll]

@[simp] theorem depthOfAll_cons (node : Node) (rest : List Node) :
    depthOfAll (node :: rest) = max node.depth (depthOfAll rest) := by
  rw [depthOfAll]

mutual

/-- How many nodes there are in a node, itself included. -/
def size : Node → Nat
  | .group children => sizeOfAll children + 1
  | _ => 1

/-- How many nodes there are in a run. -/
def sizeOfAll : List Node → Nat
  | [] => 0
  | node :: rest => node.size + sizeOfAll rest

end

mutual

/-- Equality of nodes as values: the same form throughout, and literals that are equal numbers.  A
node that holds NaN does not equal itself. -/
def numericallyEqual : Node → Node → Bool
  | .literal value, .literal value' => value.numericallyEqual value'
  | .operator op, .operator op' => op = op'
  | .group children, .group children' => allNumericallyEqual children children'
  | _, _ => false

/-- Equality of runs, node by node. -/
def allNumericallyEqual : List Node → List Node → Bool
  | [], [] => true
  | node :: rest, node' :: rest' => node.numericallyEqual node' && allNumericallyEqual rest rest'
  | _, _ => false

end

/-- What holds of the empty run, and goes from a run to the run with one more node in front, holds
of every run; for a group in front it may be used of the run inside. -/
theorem run_induction {P : List Node → Prop} (nil : P [])
    (literal : ∀ value rest, P rest → P (.literal value :: rest))
    (operator : ∀ op rest, P rest → P (.operator op :: rest))
    (group : ∀ children rest, P children → P rest → P (.group children :: rest)) :
    ∀ nodes, P nodes
  | [] => nil
  | .literal value :: rest => literal value rest (run_induction nil literal operator group rest)
  | .operator op :: rest => operator op rest (run_induction nil literal operator group rest)
  | .group children :: rest =>
    group children rest (run_induction nil literal operator group children)
      (run_induction nil literal operator group rest)

end Node

namespace Tree

/-- The tree with no nodes. -/
def empty : Tree :=
  ⟨[]⟩

/-- How many nodes stand in the outermost run. -/
def length (tree : Tree) : Nat :=
  tree.children.length

/-- Whether a tree has no nodes. -/
def isEmpty (tree : Tree) : Bool :=
  tree.children.isEmpty

/-- How deep groups are nested; zero without any group. -/
def depth (tree : Tree) : Nat :=
  Node.depthOfAll tree.children

/-- How many nodes a tree has. -/
def size (tree : Tree) : Nat :=
  Node.sizeOfAll tree.children

/-- Equality of trees as values. -/
def numericallyEqual (tree tree' : Tree) : Bool :=
  Node.allNumericallyEqual tree.children tree'.children

end Tree

end ArithExpr
