import ArithExpr.Tree.Path
import Std.Data.ExtTreeSet

/-!
# Marked nodes

While an expression is evaluated, the nodes that have been reduced to a value are
marked by their paths, outside the tree.  The marks are a set: neither the order
nor the number of times a path is marked can be seen in them.
-/

namespace ArithExpr

/-- The paths that have been marked. -/
structure Resolution where
  marked : Std.ExtTreeSet Path compare

namespace Resolution

/-- Nothing is marked. -/
def fresh : Resolution :=
  ⟨∅⟩

/-- Whether a path is marked. -/
def isResolved (resolution : Resolution) (path : Path) : Bool :=
  resolution.marked.contains path

/-- Mark a path; the first part says whether it was not marked before. -/
def mark (resolution : Resolution) (path : Path) : Bool × Resolution :=
  (!resolution.isResolved path, ⟨resolution.marked.insert path⟩)

/-- Mark several paths one after the other; the first part counts those not marked before. -/
def markAll (resolution : Resolution) (paths : List Path) : Nat × Resolution :=
  paths.foldl
    (fun (count, resolution) path =>
      let (isNew, resolution) := resolution.mark path
      (if isNew then count + 1 else count, resolution))
    (0, resolution)

/-- How many paths are marked. -/
def count (resolution : Resolution) : Nat :=
  resolution.marked.size

/-- Take all marks away. -/
def clear (_ : Resolution) : Resolution :=
  fresh

/-- Whether the same paths are marked. -/
def sameMarks (resolution resolution' : Resolution) : Bool :=
  resolution.marked.toList = resolution'.marked.toList

end Resolution

end ArithExpr
