import ArithExpr.Tree

/-!
# Paths

A path names a node by the places to take from the outermost run downwards: `[0, 2]`
is the third node of the first node of the tree.  The empty path stands for the
tree itself, which is not a node.

Paths are compared place by place, and a path comes in front of its extensions, so
`Tree.paths` lists parents before their children.
-/

namespace ArithExpr

/-- The places to take from the outermost run down to a node. -/
abbrev Path :=
  List Nat

namespace Path

/-- The path of a whole tree. -/
def root : Path :=
  []

/-- The path of the node at a place in the run that a path names. -/
def child (path : Path) (place : Nat) : Path :=
  path ++ [place]

/-- The path of the run that a node stands in; the root has none. -/
def parent? : Path → Option Path
  | [] => none
  | first :: rest => some ((first :: rest).dropLast)

/-- A path as text: a slash in front of each place, and one slash alone for the root. -/
def text (path : Path) : String :=
  "/" ++ "/".intercalate (path.map fun place => toString place)

@[simp] theorem parent?_child (path : Path) (place : Nat) :
    (path.child place).parent? = some path := by
  cases path with
  | nil => rfl
  | cons first rest =>
    simp only [child, parent?, List.cons_append, Option.some.injEq]
    rw [← List.cons_append, List.dropLast_concat]

end Path

namespace Node

/-- The node that is reached from a node along a path. -/
def follow? : Node → Path → Option Node
  | node, [] => some node
  | .group children, place :: rest => (children[place]?).bind fun child => child.follow? rest
  | _, _ :: _ => none

mutual

/-- The paths of all nodes inside a node whose own path is given. -/
def pathsWithin (path : Path) : Node → List Path
  | .group children => pathsFrom path 0 children
  | _ => []

/-- The paths of a run of nodes and of all nodes inside them; the run stands in what `path` names,
and its first node is at `place`. -/
def pathsFrom (path : Path) (place : Nat) : List Node → List Path
  | [] => []
  | node :: rest =>
    path.child place ::
      (node.pathsWithin (path.child place) ++ pathsFrom path (place + 1) rest)

end

end Node

namespace Tree

/-- The node that a path names.  The root names none. -/
def nodeAt? (tree : Tree) : Path → Option Node
  | [] => none
  | place :: rest => (tree.children[place]?).bind fun node => node.follow? rest

/-- The paths of all nodes, parents before their children. -/
def paths (tree : Tree) : List Path :=
  Node.pathsFrom Path.root 0 tree.children

end Tree

end ArithExpr
