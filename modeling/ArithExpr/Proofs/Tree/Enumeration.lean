import ArithExpr.Proofs.Tree.Paths
import Mathlib.Data.List.Nodup
import Mathlib.Order.Bounds.Image

/-!
# The paths enumerate the nodes

A tree is taken apart in three ways: its paths are collected from left to right, a node
is looked up place by place, and its depth is a maximum over its groups.  What the three
say of one tree fits together (`enumerates_paths`): the collected paths are those that
lead to a node, in ascending order, there are as many of them as there are nodes, and
the longest one to a group is as long as the tree is deep.

A path leads to a node in two steps, to the run that the node stands in and to a place
in this run (`nodeAt?_child`).  The order of paths is that of lists: they are compared
place by place, and a path comes in front of its extensions.
-/

namespace ArithExpr

namespace Tree

/-- The run that a path names: the outermost one for the root, and else that inside the group to
which the path leads. -/
def runAt? (tree : Tree) : Path → Option (List Node)
  | [] => some tree.children
  | place :: rest => ((tree.nodeAt? (place :: rest)).bind Node.group?).map Tree.children

/-- A path leads to a group. -/
def GroupAt (tree : Tree) (path : Path) : Prop :=
  ∃ children, tree.nodeAt? path = some (.group children)

/-- A list of paths has each node of a tree once, in the order of paths. -/
structure Enumerates (paths : List Path) (tree : Tree) : Prop where
  ascending : paths.Pairwise (· < ·)
  nodup : paths.Nodup
  /-- A group comes in front of what is in it. -/
  parent_first : ∀ front path place back, paths = front ++ path.child place :: back →
    path ≠ Path.root → path ∈ front
  mem_iff : ∀ path, path ∈ paths ↔ ∃ node, tree.nodeAt? path = some node
  /-- The root is no node. -/
  root : Path.root ∉ paths ∧ tree.nodeAt? Path.root = none
  /-- What is not in the outermost run is at a place inside a group. -/
  inside : ∀ path ∈ paths, 2 ≤ path.length → ∃ parent place children,
    path.parent? = some parent ∧ path.getLast? = some place ∧ parent ∈ paths ∧
      tree.nodeAt? parent = some (.group children) ∧ place < children.length
  length_eq : paths.length = tree.size
  /-- The depth is the greatest length of a path to a group, and zero without any group. -/
  depth : IsGreatest {n | ∃ path ∈ paths, tree.GroupAt path ∧ path.length = n} tree.depth ∨
    (∀ path ∈ paths, ¬ tree.GroupAt path) ∧ tree.depth = 0

end Tree

namespace Node

/-! ### Looking up -/

/-- The last step of a path is taken from the node that the others lead to. -/
lemma follow?_append (node : Node) (path more : Path) :
    node.follow? (path ++ more) = (node.follow? path).bind fun inner => inner.follow? more := by
  induction path generalizing node with
  | nil => simp [follow?]
  | cons place rest ih =>
    cases node with
    | literal value | operator op => simp [follow?]
    | group children =>
      rw [List.cons_append, follow?, follow?, Option.bind_assoc]
      congr 1
      funext child
      exact ih child

/-- One step leads into the run of a group. -/
lemma follow?_singleton (node : Node) (place : Nat) :
    node.follow? [place] = (node.group?.map Tree.children).bind fun run => run[place]? := by
  cases node with
  | literal value | operator op => rfl
  | group children => simp [follow?, group?]

end Node

namespace Tree

section Lookup

variable {tree : Tree} {path : Path} {place : Nat} {node : Node} {run children : List Node}

/-- A node is at a place in the run that the rest of its path names. -/
theorem nodeAt?_child (tree : Tree) (path : Path) (place : Nat) :
    tree.nodeAt? (path.child place) = (tree.runAt? path).bind fun run => run[place]? := by
  cases path with
  | nil => simp [Path.child, nodeAt?, runAt?, Node.follow?]
  | cons first rest =>
    have hfollow (child : Node) : child.follow? (rest ++ [place]) =
        (child.follow? rest).bind fun inner =>
          (inner.group?.map Tree.children).bind fun run => run[place]? := by
      rw [Node.follow?_append]
      simp only [Node.follow?_singleton]
    rw [Path.child, List.cons_append, runAt?, nodeAt?, nodeAt?]
    simp only [hfollow]
    cases tree.children[first]? with
    | none => rfl
    | some child =>
      simp only [Option.bind_some]
      cases child.follow? rest <;> rfl

/-- The path of a group names the run inside. -/
lemma runAt?_of_group (h : tree.nodeAt? path = some (.group children)) :
    tree.runAt? path = some children := by
  cases path with
  | nil => cases h
  | cons first rest =>
    rw [runAt?, h]
    rfl

/-- Any path that names a run, but for the root, leads to a group. -/
lemma group_of_runAt? (h : tree.runAt? path = some run) (hroot : path ≠ Path.root) :
    tree.nodeAt? path = some (.group run) := by
  cases path with
  | nil => exact absurd rfl hroot
  | cons first rest =>
    obtain ⟨inner, hinner, rfl⟩ := Option.map_eq_some_iff.mp h
    obtain ⟨node, hnode, hgroup⟩ := Option.bind_eq_some_iff.mp hinner
    cases node with
    | literal value | operator op => cases hgroup
    | group children =>
      obtain rfl := Option.some.inj hgroup
      exact hnode

/-- A node below the outermost run is at a place inside a group. -/
lemma exists_group_of_nodeAt? (h : tree.nodeAt? (path.child place) = some node)
    (hroot : path ≠ Path.root) :
    ∃ children, tree.nodeAt? path = some (.group children) ∧ place < children.length := by
  rw [nodeAt?_child] at h
  obtain ⟨run, hrun, hplace⟩ := Option.bind_eq_some_iff.mp h
  obtain ⟨hlt, -⟩ := List.getElem?_eq_some_iff.mp hplace
  exact ⟨run, group_of_runAt? hrun hroot, hlt⟩

/-- A path is listed when it leads to some node. -/
lemma mem_paths_iff_exists : path ∈ tree.paths ↔ ∃ node, tree.nodeAt? path = some node := by
  rw [mem_paths_iff, Option.isSome_iff_exists]

end Lookup

end Tree

/-! ### Order -/

namespace Path

/-- A path comes in front of its extensions. -/
lemma lt_append_cons (path more : Path) (place : Nat) : path < path ++ place :: more := by
  have hlt : path ++ [] < path ++ place :: more :=
    List.append_left_lt (List.nil_lt_cons place more)
  rwa [List.append_nil] at hlt

/-- What is at an earlier place comes first, however the paths go on. -/
lemma append_cons_lt {place place' : Nat} (h : place < place') (base more more' : Path) :
    base ++ place :: more < base ++ place' :: more' :=
  List.append_left_lt (List.cons_lt_cons_iff.mpr (Or.inl h))

end Path

namespace Node

section Order

variable {node : Node} {rest : List Node}

/-- The paths of every node are those that lead to a node from there. -/
lemma listsNode (node : Node) : node.ListsNode := by
  cases node with
  | literal value => exact listsNode_of_not_group _ nofun
  | operator op => exact listsNode_of_not_group _ nofun
  | group children => exact (listsRun children).group

/-- A node in front of a run keeps the paths in ascending order. -/
lemma pathsFrom_cons_ascending (hnode : ∀ base, (base :: node.pathsWithin base).Pairwise (· < ·))
    (hrest : ∀ base place, (pathsFrom base place rest).Pairwise (· < ·)) (base : Path)
    (place : Nat) : (pathsFrom base place (node :: rest)).Pairwise (· < ·) := by
  rw [pathsFrom, ← List.cons_append]
  refine List.pairwise_append.mpr ⟨hnode _, hrest _ _, fun path hpath path' hpath' => ?_⟩
  -- both paths go through the run, and part there at different places
  obtain ⟨more, rfl, -⟩ := (listsNode node _ path).mp hpath
  obtain ⟨step, more', rfl, -⟩ := (listsRun rest base (place + 1) path').mp hpath'
  rw [Path.child, List.append_assoc, List.singleton_append]
  exact Path.append_cons_lt (by omega) base more more'

/-- The paths of a run are collected in ascending order. -/
theorem pathsFrom_ascending (nodes : List Node) :
    ∀ base place, (pathsFrom base place nodes).Pairwise (· < ·) := by
  induction nodes using run_induction with
  | nil => exact fun base place => List.Pairwise.nil
  | literal value rest ih | operator op rest ih =>
    exact pathsFrom_cons_ascending (fun base => List.pairwise_singleton _ base) ih
  | group children rest ihinner ih =>
    refine pathsFrom_cons_ascending (fun base => ?_) ih
    rw [pathsWithin]
    refine List.pairwise_cons.mpr ⟨fun path hpath => ?_, ihinner base 0⟩
    obtain ⟨step, more, rfl, -⟩ := (listsRun children base 0 path).mp hpath
    exact Path.lt_append_cons base more _

/-- A node in front of a run adds as many paths as it has nodes. -/
lemma length_pathsFrom_cons (hnode : ∀ base, (base :: node.pathsWithin base).length = node.size)
    (hrest : ∀ base place, (pathsFrom base place rest).length = sizeOfAll rest) (base : Path)
    (place : Nat) : (pathsFrom base place (node :: rest)).length = sizeOfAll (node :: rest) := by
  rw [pathsFrom, sizeOfAll, ← List.cons_append, List.length_append, hnode, hrest]

/-- A path is collected for each node. -/
theorem length_pathsFrom (nodes : List Node) :
    ∀ base place, (pathsFrom base place nodes).length = sizeOfAll nodes := by
  induction nodes using run_induction with
  | nil => exact fun base place => rfl
  | literal value rest ih | operator op rest ih =>
    exact length_pathsFrom_cons (fun base => rfl) ih
  | group children rest ihinner ih =>
    refine length_pathsFrom_cons (fun base => ?_) ih
    rw [List.length_cons, pathsWithin, ihinner, size]

end Order

/-! ### Depth -/

section Depth

/-- The lengths of the paths that lead to a group of a run. -/
def groupLengths (nodes : List Node) : Set Nat :=
  {n | ∃ path, Tree.GroupAt ⟨nodes⟩ path ∧ path.length = n}

/-- A node in front of a run adds the lengths to the groups that are reached from it. -/
lemma groupLengths_cons (node : Node) (rest : List Node) :
    groupLengths (node :: rest) =
      {n | ∃ more children, node.follow? more = some (.group children) ∧ more.length + 1 = n} ∪
        groupLengths rest := by
  ext n
  constructor
  · rintro ⟨path, ⟨children, hgroup⟩, rfl⟩
    cases path with
    | nil => cases hgroup
    | cons place more =>
      cases place with
      | zero =>
        rw [Tree.nodeAt?_cons_zero] at hgroup
        exact Or.inl ⟨more, children, hgroup, rfl⟩
      | succ place =>
        rw [Tree.nodeAt?_cons_succ] at hgroup
        exact Or.inr ⟨place :: more, ⟨children, hgroup⟩, rfl⟩
  · rintro (⟨more, children, hgroup, rfl⟩ | ⟨path, ⟨children, hgroup⟩, rfl⟩)
    · exact ⟨0 :: more, ⟨children, by rwa [Tree.nodeAt?_cons_zero]⟩, rfl⟩
    · cases path with
      | nil => cases hgroup
      | cons place more =>
        exact ⟨(place + 1) :: more, ⟨children, by rwa [Tree.nodeAt?_cons_succ]⟩, rfl⟩

/-- A node that is no group adds no length. -/
lemma groupLengths_cons_of_not_group (node : Node) (h : ∀ children, node ≠ .group children)
    (rest : List Node) : groupLengths (node :: rest) = groupLengths rest := by
  rw [groupLengths_cons]
  refine Set.union_eq_self_of_subset_left ?_
  rintro n ⟨more, children, hgroup, -⟩
  cases more with
  | nil => exact absurd (Option.some.inj hgroup) (h children)
  | cons place more =>
    cases node with
    | group inner => exact absurd rfl (h inner)
    | literal value | operator op => cases hgroup

/-- A group adds its own length and those inside it, each by one longer. -/
lemma groupLengths_group_cons (children rest : List Node) :
    groupLengths (.group children :: rest) =
      (· + 1) '' insert 0 (groupLengths children) ∪ groupLengths rest := by
  rw [groupLengths_cons]
  congr 1
  ext n
  constructor
  · rintro ⟨more, inner, hgroup, rfl⟩
    refine ⟨more.length, ?_, rfl⟩
    cases more with
    | nil => exact Or.inl rfl
    | cons place more =>
      rw [Tree.follow?_group_cons] at hgroup
      exact Or.inr ⟨place :: more, ⟨inner, hgroup⟩, rfl⟩
  · rintro ⟨_, rfl | ⟨path, ⟨inner, hgroup⟩, rfl⟩, rfl⟩
    · exact ⟨[], children, rfl, rfl⟩
    · cases path with
      | nil => cases hgroup
      | cons place more =>
        exact ⟨place :: more, inner, by rwa [Tree.follow?_group_cons], rfl⟩

/-- The depth of a run is the greatest length of a path that leads to a group in it, and zero if
there is no group. -/
theorem isGreatest_depthOfAll (nodes : List Node) :
    IsGreatest (insert 0 (groupLengths nodes)) (depthOfAll nodes) := by
  induction nodes using run_induction with
  | nil =>
    refine ⟨Or.inl rfl, ?_⟩
    rintro n (rfl | ⟨path, ⟨children, hgroup⟩, -⟩)
    · exact Nat.le_refl _
    · cases path <;> cases hgroup
  | literal value rest ih =>
    rw [groupLengths_cons_of_not_group (.literal value) nofun, depthOfAll_cons, depth_literal,
      Nat.zero_max]
    exact ih
  | operator op rest ih =>
    rw [groupLengths_cons_of_not_group (.operator op) nofun, depthOfAll_cons, depth_operator,
      Nat.zero_max]
    exact ih
  | group children rest ihinner ih =>
    have hstep : Monotone fun n : Nat => n + 1 := fun _ _ h => Nat.succ_le_succ h
    rw [groupLengths_group_cons, depthOfAll_cons, depth_group, ← Set.union_insert]
    exact (hstep.map_isGreatest ihinner).union ih

end Depth

end Node

namespace Tree

section Enumeration

variable (tree : Tree)

/-- A group comes in front of what is in it. -/
lemma mem_front_of_paths {front back : List Path} {path : Path} {place : Nat}
    (hpaths : tree.paths = front ++ path.child place :: back) (hroot : path ≠ Path.root) :
    path ∈ front := by
  have hmem : path.child place ∈ tree.paths := by
    rw [hpaths]
    exact List.mem_append_right _ List.mem_cons_self
  obtain ⟨node, hnode⟩ := mem_paths_iff_exists.mp hmem
  obtain ⟨children, hgroup, -⟩ := exists_group_of_nodeAt? hnode hroot
  have hparent : path ∈ tree.paths := mem_paths_iff_exists.mpr ⟨_, hgroup⟩
  have hlt : path < path.child place := Path.lt_append_cons path [] place
  have hascending : tree.paths.Pairwise (· < ·) := Node.pathsFrom_ascending _ _ _
  rw [hpaths] at hparent hascending
  obtain ⟨-, hback, -⟩ := List.pairwise_append.mp hascending
  rcases List.mem_append.mp hparent with hfront | hbehind
  · exact hfront
  · rcases List.mem_cons.mp hbehind with heq | hlater
    · exact absurd hlt (heq ▸ lt_irrefl _)
    · exact absurd hlt (lt_asymm ((List.pairwise_cons.mp hback).1 path hlater))

/-- A path that is not in the outermost run comes from a place inside a group. -/
lemma exists_parent_of_mem_paths {path : Path} (hpath : path ∈ tree.paths)
    (hlength : 2 ≤ path.length) :
    ∃ parent place children, path.parent? = some parent ∧ path.getLast? = some place ∧
      parent ∈ tree.paths ∧ tree.nodeAt? parent = some (.group children) ∧
        place < children.length := by
  rcases List.eq_nil_or_concat path with rfl | ⟨parent, place, rfl⟩
  · cases hlength
  · have hroot : parent ≠ Path.root := by
      rintro rfl
      simp [Path.root] at hlength
    rw [List.concat_eq_append] at hpath ⊢
    obtain ⟨node, hnode⟩ := mem_paths_iff_exists.mp hpath
    obtain ⟨children, hgroup, hplace⟩ := exists_group_of_nodeAt? hnode hroot
    exact ⟨parent, place, children, Path.parent?_child parent place, List.getLast?_concat,
      mem_paths_iff_exists.mpr ⟨_, hgroup⟩, hgroup, hplace⟩

/-- The depth is the greatest length of a path to a group. -/
lemma depth_cases :
    IsGreatest {n | ∃ path ∈ tree.paths, tree.GroupAt path ∧ path.length = n} tree.depth ∨
      (∀ path ∈ tree.paths, ¬ tree.GroupAt path) ∧ tree.depth = 0 := by
  obtain ⟨hdepth, hbound⟩ := Node.isGreatest_depthOfAll tree.children
  have hlisted {path : Path} (hgroup : tree.GroupAt path) : path ∈ tree.paths := by
    obtain ⟨children, hnode⟩ := hgroup
    exact mem_paths_iff_exists.mpr ⟨_, hnode⟩
  by_cases hnone : ∀ path ∈ tree.paths, ¬ tree.GroupAt path
  · refine Or.inr ⟨hnone, hdepth.resolve_right ?_⟩
    rintro ⟨path, hgroup, -⟩
    exact hnone path (hlisted hgroup) hgroup
  · push Not at hnone
    obtain ⟨path, hpath, hgroup⟩ := hnone
    have hpositive : 0 < tree.depth := by
      refine Nat.lt_of_lt_of_le ?_ (hbound (Or.inr ⟨path, hgroup, rfl⟩))
      refine List.length_pos_iff.mpr ?_
      rintro rfl
      cases hgroup.choose_spec
    refine Or.inl ⟨?_, ?_⟩
    · obtain ⟨deepest, hdeepest, hlength⟩ := hdepth.resolve_left hpositive.ne'
      exact ⟨deepest, hlisted hdeepest, hdeepest, hlength⟩
    · rintro n ⟨other, -, hother, rfl⟩
      exact hbound (Or.inr ⟨other, hother, rfl⟩)

/-- The paths of a tree enumerate its nodes. -/
theorem enumerates_paths : Enumerates tree.paths tree where
  ascending := Node.pathsFrom_ascending _ _ _
  nodup := (Node.pathsFrom_ascending _ _ _).nodup
  parent_first _ _ _ _ hpaths hroot := mem_front_of_paths tree hpaths hroot
  mem_iff _ := mem_paths_iff_exists
  root := ⟨fun hroot => by simpa [Path.root, nodeAt?] using mem_paths_iff_exists.mp hroot, rfl⟩
  inside _ hpath hlength := exists_parent_of_mem_paths tree hpath hlength
  length_eq := Node.length_pathsFrom _ _ _
  depth := depth_cases tree

/-- A group stands between the node in front of it and the nodes inside it. -/
example : paths ⟨[.operator .minus, .group [.group [], .operator .divide], .operator .plus]⟩ =
    [[0], [1], [1, 0], [1, 1], [2]] := by
  decide

end Enumeration

end Tree

end ArithExpr
