import ArithExpr.Proofs.Tree.Enumeration
import ArithExpr.Tree.Drawing

/-!
# Drawings go by paths

A drawing is made in one walk over the tree, which hands the margin down and grows it at
each group.  The line of a node can also be told from its path alone (`Draws`): each
place on the way but the last gives a column of the margin, and the last one gives the
connector.  `drawing_by_paths` says that a drawing is a heading and these lines, one for
each path in the order of the paths.

The walk is followed along a run.  What is kept on the way is that the margin at hand is
that of every node of the run, so it does not matter which of them comes next.
-/

namespace ArithExpr

namespace Tree

/-- Whether a path ends at the last place of the run in which it ends. -/
def endsRun (tree : Tree) (path : Path) : Bool :=
  (path.parent?.bind tree.runAt?).any fun run => path.getLast?.any fun place =>
    place + 1 = run.length

/-- The margin of the node at a path has two columns for each group around the node, which is named
by a part of the path: a bar while nodes follow behind the group, and blank behind the last one. -/
def marginAt (tree : Tree) (path : Path) : String :=
  String.join ((List.range (path.length - 1)).map fun count =>
    if tree.endsRun (path.take (count + 1)) then "  " else "│ ")

end Tree

/-- What is drawn for a node: an icon of its form, and its value, its symbol or the number of nodes
inside it. -/
inductive Node.Shown : Node → String → String → Prop
  | literal (value : Double) : Shown (.literal value) "#" (Layout.plain.write value)
  | multiplicative {op : Operator} (h : op.isMultiplicative = true) :
      Shown (.operator op) "×" op.symbol
  | additive {op : Operator} (h : op.isMultiplicative = false) : Shown (.operator op) "±" op.symbol
  | one (child : Node) : Shown (.group [child]) "⊏" "1 node"
  | count {children : List Node} (h : children.length ≠ 1) :
      Shown (.group children) "⊏" (toString children.length ++ " nodes")

/-- The icon and the label of a node are what is drawn for it. -/
lemma Node.shown_icon_label (node : Node) : node.Shown node.icon node.label := by
  cases node with
  | literal value => exact .literal value
  | operator op =>
    cases op with
    | multiply | divide => exact .multiplicative rfl
    | plus | minus => exact .additive rfl
  | group children =>
    rw [icon, label, countLabel]
    split
    · next hone =>
      obtain ⟨child, rfl⟩ := List.length_eq_one_iff.mp hone
      exact .one child
    · next hcount => exact .count hcount

namespace Tree

/-- A line draws the node at a path. -/
def Draws (tree : Tree) (path : Path) (line : String) : Prop :=
  ∃ node icon label, tree.nodeAt? path = some node ∧ node.Shown icon label ∧
    line = tree.marginAt path ++ (if tree.endsRun path then "└─" else "├─") ++ " " ++ icon ++
      " " ++ label ++ "\n"

section Draws

variable {tree : Tree} {base : Path} {margin : String} {node : Node} {front rest run : List Node}

/-- The path of a node in a run leads to the node. -/
lemma nodeAt?_of_runAt? (hrun : tree.runAt? base = some (front ++ node :: rest)) :
    tree.nodeAt? (base.child front.length) = some node := by
  rw [nodeAt?_child, hrun]
  simp

/-- The path of a node in a run ends at the last place when no more nodes follow. -/
lemma endsRun_of_runAt? (hrun : tree.runAt? base = some (front ++ node :: rest)) :
    tree.endsRun (base.child front.length) = rest.isEmpty := by
  rw [endsRun, Path.parent?_child, Option.bind_some, hrun, Path.child, List.getLast?_concat]
  cases rest <;> simp

/-- Nodes in the outermost run have no margin. -/
lemma marginAt_root_child (place : Nat) : tree.marginAt (Path.root.child place) = "" := rfl

/-- Inside a group the margin is that of the group and one more column. -/
lemma marginAt_child_child (tree : Tree) (base : Path) (place inner : Nat) :
    tree.marginAt ((base.child place).child inner) = tree.marginAt (base.child place) ++
      Node.marginBelow (tree.endsRun (base.child place)) := by
  generalize hpath : base.child place = path
  have hlength : path.length = base.length + 1 := by simp [← hpath, Path.child]
  have hlast : (path.child inner).take (base.length + 1) = path := List.take_left' hlength
  have hfront : ∀ count ∈ List.range base.length,
      (path.child inner).take (count + 1) = path.take (count + 1) := by
    intro count hcount
    have hlt := List.mem_range.mp hcount
    exact List.take_append_of_le_length (by omega)
  have hsize : (path.child inner).length - 1 = base.length + 1 := by simp [Path.child, hlength]
  have hsize' : path.length - 1 = base.length := by rw [hlength, Nat.add_sub_cancel]
  rw [marginAt, marginAt, hsize, hsize', List.range_succ, List.map_append, String.join_append,
    List.map_singleton, hlast, String.join_cons, String.join_nil, String.append_empty,
    List.map_congr_left fun count hcount => by rw [hfront count hcount]]
  rfl

/-- The lines of a run draw its nodes when those of its first node and those of the others do. -/
lemma draws_cons {inside : List String}
    (hmargin : ∀ place, tree.marginAt (base.child place) = margin)
    (hrun : tree.runAt? base = some (front ++ node :: rest))
    (hlines : node.lines margin rest.isEmpty = node.line margin rest.isEmpty :: inside)
    (hinside : List.Forall₂ tree.Draws (node.pathsWithin (base.child front.length))
      (inside.map (· ++ "\n")))
    (hrest : tree.runAt? base = some ((front ++ [node]) ++ rest) →
      List.Forall₂ tree.Draws (Node.pathsFrom base (front ++ [node]).length rest)
        ((Node.linesOfAll margin rest).map (· ++ "\n"))) :
    List.Forall₂ tree.Draws (Node.pathsFrom base front.length (node :: rest))
      ((Node.linesOfAll margin (node :: rest)).map (· ++ "\n")) := by
  have hline : tree.Draws (base.child front.length) (node.line margin rest.isEmpty ++ "\n") := by
    refine ⟨node, node.icon, node.label, nodeAt?_of_runAt? hrun, node.shown_icon_label, ?_⟩
    rw [hmargin, endsRun_of_runAt? hrun]
    rfl
  have hlater := hrest (by rw [hrun, List.append_cons])
  rw [List.length_append] at hlater
  rw [Node.pathsFrom, Node.linesOfAll, hlines, List.cons_append, List.map_cons, List.map_append]
  exact .cons hline (List.rel_append hinside hlater)

/-- The lines of a run draw its nodes and the nodes inside them, path by path. -/
theorem draws_linesOfAll {nodes : List Node}
    (hmargin : ∀ place, tree.marginAt (base.child place) = margin)
    (hrun : tree.runAt? base = some (front ++ nodes)) :
    List.Forall₂ tree.Draws (Node.pathsFrom base front.length nodes)
      ((Node.linesOfAll margin nodes).map (· ++ "\n")) := by
  induction nodes using Node.run_induction generalizing base margin front with
  | nil => exact .nil
  | literal value rest ih | operator op rest ih =>
    exact draws_cons hmargin hrun rfl .nil (ih hmargin)
  | group children rest ihinner ih =>
    have hinside : tree.runAt? (base.child front.length) = some ([] ++ children) :=
      runAt?_of_group (nodeAt?_of_runAt? hrun)
    have hcolumn (inner : Nat) : tree.marginAt ((base.child front.length).child inner) =
        margin ++ Node.marginBelow rest.isEmpty := by
      rw [marginAt_child_child, hmargin, endsRun_of_runAt? hrun]
    exact draws_cons hmargin hrun rfl (ihinner hcolumn hinside) (ih hmargin)

/-- A drawing is a heading and a line for each path, which draws the node there. -/
theorem drawing_by_paths (tree : Tree) :
    ∃ lines, tree.drawing = "⧉ expression\n" ++ String.join lines ∧
      List.Forall₂ tree.Draws tree.paths lines := by
  refine ⟨(Node.linesOfAll "" tree.children).map (· ++ "\n"), ?_, ?_⟩
  · rw [drawing, List.map_cons, String.join_cons]
    rfl
  · have hrun : tree.runAt? Path.root = some ([] ++ tree.children) := rfl
    exact draws_linesOfAll marginAt_root_child hrun

/-- Behind the last node of a run the margin is blank. -/
example : drawing ⟨[.operator .minus, .group [.group [], .operator .divide]]⟩ =
    "⧉ expression\n├─ ± -\n└─ ⊏ 2 nodes\n  ├─ ⊏ 0 nodes\n  └─ × /\n" := by
  decide +kernel

end Draws

end Tree

end ArithExpr
