import ArithExpr.Proofs.Tree.Rendering
import ArithExpr.Tree.Path

/-!
# Paths and shapes

The paths of a tree are listed without looking anything up, and a node is looked up
without the list.  `mem_paths_iff` says that the two agree: a path is listed exactly
when it leads to a node.

Neither asks for the values of literals.  So two trees of one shape have the same paths
(`paths_eq_of_shapes`), and these lead to nodes of one shape (`shape_nodeAt?`), which
have the same form and the same operator.
-/

namespace ArithExpr

namespace Tree

/-- The first place leads into the first node. -/
@[simp] lemma nodeAt?_cons_zero (node : Node) (nodes : List Node) (path : Path) :
    nodeAt? ⟨node :: nodes⟩ (0 :: path) = node.follow? path := by
  simp [nodeAt?]

/-- Every other place leads to what it would lead to without the first node. -/
@[simp] lemma nodeAt?_cons_succ (node : Node) (nodes : List Node) (place : Nat) (path : Path) :
    nodeAt? ⟨node :: nodes⟩ ((place + 1) :: path) = nodeAt? ⟨nodes⟩ (place :: path) := by
  simp [nodeAt?]

/-- Below a group a path goes on in the run inside. -/
lemma follow?_group_cons (children : List Node) (place : Nat) (path : Path) :
    (Node.group children).follow? (place :: path) = nodeAt? ⟨children⟩ (place :: path) := by
  rw [Node.follow?, nodeAt?]

end Tree

namespace Node

/-! ### Listed paths -/

/-- The path of a node and the paths inside it are those that lead to a node from there. -/
def ListsNode (node : Node) : Prop :=
  ∀ base path : Path, path ∈ base :: node.pathsWithin base ↔
    ∃ more, path = base ++ more ∧ (node.follow? more).isSome = true

/-- The paths of a run are those that lead to one of its nodes or into one. -/
def ListsRun (nodes : List Node) : Prop :=
  ∀ (base : Path) (place : Nat) (path : Path), path ∈ pathsFrom base place nodes ↔
    ∃ step more, path = base ++ (place + step) :: more ∧
      (Tree.nodeAt? ⟨nodes⟩ (step :: more)).isSome = true

/-- Nothing is inside a node that is no group. -/
lemma listsNode_of_not_group (node : Node) (h : ∀ children, node ≠ .group children) :
    node.ListsNode := by
  intro base path
  have hwithin : node.pathsWithin base = [] := by
    cases node with
    | group children => exact absurd rfl (h children)
    | literal | operator => rfl
  have hfollow : ∀ more, (node.follow? more).isSome = true ↔ more = [] := by
    intro more
    cases more with
    | nil => simp [follow?]
    | cons place rest =>
      cases node with
      | group children => exact absurd rfl (h children)
      | literal | operator => simp [follow?]
  simp [hwithin, hfollow]

/-- Inside a group is its run. -/
lemma ListsRun.group {children : List Node} (h : ListsRun children) :
    (Node.group children).ListsNode := by
  intro base path
  rw [List.mem_cons, pathsWithin, h base 0 path]
  constructor
  · rintro (rfl | ⟨step, more, rfl, hsome⟩)
    · exact ⟨[], by simp, by simp [follow?]⟩
    · refine ⟨step :: more, by simp, ?_⟩
      rwa [Tree.follow?_group_cons]
  · rintro ⟨more, rfl, hsome⟩
    cases more with
    | nil => exact Or.inl (List.append_nil base)
    | cons step rest =>
      rw [Tree.follow?_group_cons] at hsome
      exact Or.inr ⟨step, rest, by simp, hsome⟩

/-- A node in front of a run has the first place. -/
lemma ListsNode.cons {node : Node} {nodes : List Node} (hnode : node.ListsNode)
    (hnodes : ListsRun nodes) : ListsRun (node :: nodes) := by
  intro base place path
  rw [pathsFrom, ← List.cons_append, List.mem_append, hnode (base.child place) path,
    hnodes base (place + 1) path]
  constructor
  · rintro (⟨more, rfl, hsome⟩ | ⟨step, more, rfl, hsome⟩)
    · exact ⟨0, more, by simp [Path.child], by simpa using hsome⟩
    · refine ⟨step + 1, more, ?_, by simpa using hsome⟩
      rw [Nat.add_right_comm, Nat.add_assoc]
  · rintro ⟨_ | step, more, rfl, hsome⟩
    · exact Or.inl ⟨more, by simp [Path.child], by simpa using hsome⟩
    · refine Or.inr ⟨step, more, ?_, by simpa using hsome⟩
      rw [Nat.add_right_comm, Nat.add_assoc]

/-- The paths of every run are listed. -/
theorem listsRun (nodes : List Node) : ListsRun nodes := by
  induction nodes using run_induction with
  | nil =>
    intro base place path
    simp [pathsFrom, Tree.nodeAt?]
  | literal value rest ih => exact (listsNode_of_not_group (.literal value) nofun).cons ih
  | operator op rest ih => exact (listsNode_of_not_group (.operator op) nofun).cons ih
  | group children rest ihinner ih => exact ihinner.group.cons ih

/-! ### Nodes of one shape -/

section Shapes

variable {node node' : Node} {nodes nodes' : List Node}

/-- The shapes of a run are those of its nodes. -/
lemma shapes_eq_map (nodes : List Node) : shapes nodes = nodes.map shape := by
  induction nodes with
  | nil => rfl
  | cons node rest ih => rw [shapes, List.map_cons, ih]

/-- Nodes of one shape have the same form. -/
lemma form_eq_of_shape (h : node.shape = node'.shape) : node.form = node'.form := by
  cases node <;> cases node' <;> simp_all [shape, form]

/-- Nodes of one shape are the same operator or none. -/
lemma operator?_eq_of_shape (h : node.shape = node'.shape) : node.operator? = node'.operator? := by
  cases node <;> cases node' <;> simp_all [shape, operator?]

/-- Runs of one shape have the same paths. -/
lemma pathsFrom_eq_of_shapes (h : shapes nodes = shapes nodes') (base : Path) (place : Nat) :
    pathsFrom base place nodes = pathsFrom base place nodes' := by
  induction nodes using run_induction generalizing nodes' base place with
  | nil =>
    cases nodes' with
    | nil => rfl
    | cons node' rest' => cases h
  | literal value rest ih | operator op rest ih =>
    cases nodes' with
    | nil => cases h
    | cons node' rest' =>
      obtain ⟨hnode, hrest⟩ := List.cons.inj h
      rw [pathsFrom, pathsFrom, ih hrest]
      cases node' with
      | group children => cases hnode
      | literal | operator => rfl
  | group children rest ihinner ih =>
    cases nodes' with
    | nil => cases h
    | cons node' rest' =>
      obtain ⟨hnode, hrest⟩ := List.cons.inj h
      cases node' with
      | literal | operator => cases hnode
      | group children' =>
        rw [pathsFrom, pathsFrom, pathsWithin, pathsWithin, ih hrest,
          ihinner (Shape.group.inj hnode)]

end Shapes

end Node

namespace Tree

section Shapes

variable {tree tree' : Tree} {path : Path}

/-- A path is listed when it leads to a node. -/
theorem mem_paths_iff : path ∈ tree.paths ↔ (tree.nodeAt? path).isSome = true := by
  rw [paths, Node.listsRun tree.children Path.root 0 path]
  constructor
  · rintro ⟨step, more, rfl, hsome⟩
    simpa [Path.root] using hsome
  · intro hsome
    cases path with
    | nil => simp [nodeAt?] at hsome
    | cons step more => exact ⟨step, more, by simp [Path.root], hsome⟩

/-- Trees of one shape have the same paths. -/
theorem paths_eq_of_shapes (h : tree.shapes = tree'.shapes) : tree.paths = tree'.paths :=
  Node.pathsFrom_eq_of_shapes h Path.root 0

/-- In trees of one shape a path leads to nodes of one shape, or to none in both. -/
theorem shape_nodeAt? (h : tree.shapes = tree'.shapes) (path : Path) :
    (tree.nodeAt? path).map Node.shape = (tree'.nodeAt? path).map Node.shape := by
  induction path generalizing tree tree' with
  | nil => rfl
  | cons place rest ih =>
    have hplace : tree.children[place]?.map Node.shape = tree'.children[place]?.map Node.shape := by
      rw [shapes, shapes, Node.shapes_eq_map, Node.shapes_eq_map] at h
      rw [← List.getElem?_map, ← List.getElem?_map, h]
    rw [nodeAt?, nodeAt?]
    cases hnode : tree.children[place]? with
    | none =>
      rw [hnode, Option.map_none] at hplace
      rw [Option.map_eq_none_iff.mp hplace.symm]
    | some node =>
      rw [hnode, Option.map_some] at hplace
      obtain ⟨node', hnode', hshape⟩ := Option.map_eq_some_iff.mp hplace.symm
      rw [hnode', Option.bind_some, Option.bind_some]
      cases rest with
      | nil => simp [Node.follow?, hshape]
      | cons next rest =>
        cases node with
        | group children =>
          cases node' with
          | group children' =>
            rw [follow?_group_cons, follow?_group_cons]
            exact ih (Shape.group.inj hshape.symm)
          | literal | operator => cases hshape
        | literal | operator =>
          cases node' with
          | group children' => cases hshape
          | literal | operator => rfl

end Shapes

end Tree

end ArithExpr
