import ArithExpr.Proofs.Tree.Enumeration
import ArithExpr.Tree.Resolution
import Mathlib.Data.Set.Card

/-!
# Marks are a set

A table of marks is called again and again: a path is marked, or all marks are taken
away.  What can be seen of it is the set of paths marked since it was last cleared
(`MarkedSinceClear`): which paths are marked, how many, and for each call that marks a
path whether it was the first to do so.

So the nodes of a tree can be marked in any order and any number of times.  Since the
paths of a tree name each of its nodes once, the marks end up as many as the nodes, and
as many calls were the first on their path (`marks_form_set`).
-/

namespace ArithExpr

namespace Resolution

/-- A call that changes which paths are marked. -/
inductive Call where
  | mark (path : Path)
  | clear
  deriving DecidableEq

/-- What a call answers, and the table behind it.  Only marking has an answer. -/
def call (resolution : Resolution) : Call → Option Bool × Resolution
  | .mark path => ((resolution.mark path).1, (resolution.mark path).2)
  | .clear => (none, resolution.clear)

/-- The table behind a sequence of calls. -/
def after (resolution : Resolution) : List Call → Resolution
  | [] => resolution
  | first :: rest => (resolution.call first).2.after rest

/-- The answers to a sequence of calls. -/
def answers (resolution : Resolution) : List Call → List (Option Bool)
  | [] => []
  | first :: rest => (resolution.call first).1 :: (resolution.call first).2.answers rest

/-- A call marks the path, and none behind it clears the table. -/
def MarkedSinceClear (calls : List Call) (path : Path) : Prop :=
  ∃ front back, calls = front ++ .mark path :: back ∧ Call.clear ∉ back

/-- Paths that are marked are those of a tree: each of them, and nothing else. -/
def CoverPaths (marks : List Path) (tree : Tree) : Prop :=
  marks ⊆ tree.paths ∧ tree.paths ⊆ marks

/-! ### One call -/

section Call

variable (resolution : Resolution) (path path' : Path)

/-- Marking a path adds it to those that are marked. -/
@[simp] lemma isResolved_mark : (resolution.mark path).2.isResolved path' = true ↔
    path = path' ∨ resolution.isResolved path' = true := by
  simp [isResolved, mark]

/-- Nothing is marked in a fresh table. -/
@[simp] lemma isResolved_fresh : fresh.isResolved path = false := by
  simp [isResolved, fresh]

/-- A call that marks a path is the first to do so when the table has one mark more behind it. -/
lemma count_mark : (resolution.mark path).2.count =
    resolution.count + if (resolution.mark path).1 = true then 1 else 0 := by
  rw [count, count, mark, Std.ExtTreeSet.size_insert, isResolved]
  cases resolution.marked.contains path <;> rfl

end Call

/-! ### Many calls -/

section Calls

variable (resolution : Resolution) (front back calls : List Call) (path : Path)

/-- Calls can be made in two parts. -/
lemma after_append :
    resolution.after (front ++ back) = (resolution.after front).after back := by
  induction front generalizing resolution with
  | nil => rfl
  | cons first rest ih => exact ih (resolution.call first).2

/-- Calls that are made in two parts are answered in two parts. -/
lemma answers_append : resolution.answers (front ++ back) =
    resolution.answers front ++ (resolution.after front).answers back := by
  induction front generalizing resolution with
  | nil => rfl
  | cons first rest ih =>
    rw [List.cons_append, answers, answers, after, ih, List.cons_append]

/-- Every call has an answer. -/
lemma length_answers : (resolution.answers calls).length = calls.length := by
  induction calls generalizing resolution with
  | nil => rfl
  | cons first rest ih => rw [answers, List.length_cons, ih, List.length_cons]

/-- One call more: it marks the path itself, or else leaves what is marked unless it clears it. -/
lemma markedSinceClear_concat (last : Call) : MarkedSinceClear (calls ++ [last]) path ↔
    last = .mark path ∨ last ≠ .clear ∧ MarkedSinceClear calls path := by
  constructor
  · rintro ⟨front, back, hcalls, hback⟩
    rcases List.eq_nil_or_concat back with rfl | ⟨more, latest, rfl⟩
    · obtain ⟨-, hlast⟩ := List.append_inj' hcalls rfl
      exact Or.inl (List.singleton_inj.mp hlast)
    · rw [List.concat_eq_append] at hcalls hback
      rw [← List.cons_append, ← List.append_assoc] at hcalls
      obtain ⟨rfl, hlast⟩ := List.append_inj' hcalls rfl
      obtain rfl := List.singleton_inj.mp hlast
      refine Or.inr ⟨?_, front, more, rfl, fun hmem => hback (List.mem_append_left _ hmem)⟩
      rintro rfl
      exact hback (List.mem_append_right _ List.mem_cons_self)
  · rintro (rfl | ⟨hlast, front, back, rfl, hback⟩)
    · exact ⟨calls, [], rfl, List.not_mem_nil⟩
    · refine ⟨front, back ++ [last], by rw [List.append_assoc, List.cons_append], ?_⟩
      intro hmem
      rcases List.mem_append.mp hmem with hmem | hmem
      · exact hback hmem
      · exact hlast (List.mem_singleton.mp hmem).symm

/-- What is marked behind a sequence of calls is what they have marked since the last clear. -/
theorem isResolved_after :
    (fresh.after calls).isResolved path = true ↔ MarkedSinceClear calls path := by
  -- from the last call backwards: a clear forgets everything in front of it
  induction calls using List.reverseRecOn with
  | nil =>
    rw [after, isResolved_fresh]
    refine iff_of_false Bool.false_ne_true ?_
    rintro ⟨front, back, hcalls, -⟩
    exact List.append_ne_nil_of_right_ne_nil front (List.cons_ne_nil _ back) hcalls.symm
  | append_singleton calls last ih =>
    rw [after_append, markedSinceClear_concat, ← ih]
    cases last with
    | mark marked => simp [after, call]
    | clear => simp [after, call, clear]

/-- A call that marks a path says whether it was not marked since the last clear. -/
lemma exists_answer (front : List Call) (path : Path) (back : List Call) :
    ∃ isNew, (fresh.answers (front ++ .mark path :: back))[front.length]? = some (some isNew) ∧
      (isNew = true ↔ ¬ MarkedSinceClear front path) := by
  refine ⟨((fresh.after front).mark path).1, ?_, ?_⟩
  · have hlength := length_answers fresh front
    rw [answers_append, List.getElem?_append_right hlength.le, hlength, Nat.sub_self]
    rfl
  · rw [← isResolved_after, mark, Bool.not_eq_true, Bool.not_eq_true']

/-- Without a clear, everything that was ever marked still is. -/
lemma markedSinceClear_map_mark {marks : List Path} {path : Path} :
    MarkedSinceClear (marks.map .mark) path ↔ path ∈ marks := by
  constructor
  · rintro ⟨front, back, hcalls, -⟩
    have hmem : Call.mark path ∈ marks.map Call.mark := by
      rw [hcalls]
      exact List.mem_append_right _ List.mem_cons_self
    obtain ⟨other, hother, hmark⟩ := List.mem_map.mp hmem
    exact Call.mark.inj hmark ▸ hother
  · intro hmem
    obtain ⟨front, back, rfl⟩ := List.append_of_mem hmem
    exact ⟨front.map .mark, back.map .mark, by simp, by simp⟩

/-- Without a clear, the marks grow by one for each call that is the first on its path. -/
theorem count_after_map_mark (resolution : Resolution) (marks : List Path) :
    (resolution.after (marks.map .mark)).count =
      resolution.count + (resolution.answers (marks.map .mark)).count (some true) := by
  induction marks generalizing resolution with
  | nil => rfl
  | cons path rest ih =>
    have hrest := ih (resolution.mark path).2
    rw [count_mark] at hrest
    rw [List.map_cons, after, answers, List.count_cons, call, Option.some_beq_some, beq_true]
    dsimp only
    omega

end Calls

/-! ### Marks of a tree -/

section Count

/-- A list without repetitions has as many members as entries. -/
lemma encard_mem {paths : List Path} (h : paths.Nodup) :
    Set.encard {path | path ∈ paths} = paths.length := by
  rw [← List.coe_toFinset, Set.encard_coe_eq_coe_finsetCard, List.toFinset_card_of_nodup h]

/-- The number of marks is that of the paths that are marked. -/
theorem encard_isResolved (resolution : Resolution) :
    Set.encard {path | resolution.isResolved path = true} = resolution.count := by
  have hnodup : resolution.marked.toList.Nodup := by
    refine Std.ExtTreeSet.distinct_toList.imp ?_
    rintro path _ hdistinct rfl
    exact hdistinct Std.ReflCmp.compare_self
  have hset : {path | resolution.isResolved path = true} =
      {path | path ∈ resolution.marked.toList} := by
    ext path
    exact Std.ExtTreeSet.mem_iff_contains.symm.trans Std.ExtTreeSet.mem_toList.symm
  rw [hset, encard_mem hnodup, Std.ExtTreeSet.length_toList, count]

/-- Tables with the same marks are the same. -/
lemma eq_of_isResolved {resolution resolution' : Resolution}
    (h : ∀ path, resolution.isResolved path = true ↔ resolution'.isResolved path = true) :
    resolution = resolution' := by
  obtain ⟨marked⟩ := resolution
  obtain ⟨marked'⟩ := resolution'
  congr 1
  exact Std.ExtTreeSet.ext_mem h

variable {marks : List Path} {tree : Tree}

/-- When marks cover the paths of a tree, these are marked and nothing else is. -/
lemma CoverPaths.isResolved_iff (h : CoverPaths marks tree) (path : Path) :
    (fresh.after (marks.map .mark)).isResolved path = true ↔ path ∈ tree.paths := by
  rw [isResolved_after, markedSinceClear_map_mark]
  exact ⟨fun hmem => h.1 hmem, fun hmem => h.2 hmem⟩

/-- When marks cover the paths of a tree, there is a mark for each node. -/
lemma CoverPaths.count_eq (h : CoverPaths marks tree) :
    (fresh.after (marks.map .mark)).count = tree.size := by
  have hnodup : tree.paths.Nodup := (Node.pathsFrom_ascending _ _ _).nodup
  have hlength : tree.paths.length = tree.size := Node.length_pathsFrom _ _ _
  have hcount := encard_isResolved (fresh.after (marks.map .mark))
  simp only [h.isResolved_iff] at hcount
  rw [encard_mem hnodup, hlength] at hcount
  exact (Nat.cast_injective hcount).symm

/-- When marks cover the paths of a tree, as many calls as it has nodes were the first on their
path. -/
lemma CoverPaths.count_answers (h : CoverPaths marks tree) :
    (fresh.answers (marks.map .mark)).count (some true) = tree.size := by
  have hcount := count_after_map_mark fresh marks
  have hfresh : fresh.count = 0 := Std.ExtTreeSet.size_empty
  rw [h.count_eq, hfresh, Nat.zero_add] at hcount
  exact hcount.symm

end Count

/-- What can be seen of a table is the set of paths marked since it was last cleared.  The nodes of
a tree can be marked in any order and again and again: the tables are the same, with a mark for
each node, and as many calls were the first on their path. -/
theorem marks_form_set :
    (∀ calls : List Call,
      (∀ path, (fresh.after calls).isResolved path = true ↔ MarkedSinceClear calls path) ∧
      ((fresh.after calls).count : ℕ∞) = Set.encard {path | MarkedSinceClear calls path} ∧
      ∀ front path back, calls = front ++ .mark path :: back →
        ∃ isNew, (fresh.answers calls)[front.length]? = some (some isNew) ∧
          (isNew = true ↔ ¬ MarkedSinceClear front path)) ∧
    ∀ (tree : Tree) (marks marks' : List Path), CoverPaths marks tree → CoverPaths marks' tree →
      fresh.after (marks.map .mark) = fresh.after (marks'.map .mark) ∧
      (fresh.after (marks.map .mark)).count = tree.size ∧
      (fresh.answers (marks.map .mark)).count (some true) = tree.size ∧
      (fresh.answers (marks'.map .mark)).count (some true) = tree.size := by
  refine ⟨fun calls => ⟨fun path => isResolved_after calls path, ?_, ?_⟩, ?_⟩
  · rw [← encard_isResolved]
    simp only [isResolved_after]
  · rintro front path back rfl
    exact exists_answer front path back
  · intro tree marks marks' hmarks hmarks'
    refine ⟨?_, hmarks.count_eq, hmarks.count_answers, hmarks'.count_answers⟩
    apply eq_of_isResolved
    intro path
    rw [hmarks.isResolved_iff, hmarks'.isResolved_iff]

/-- The nodes of a tree with a group, marked upwards and downwards. -/
theorem marks_form_set_of_group :
    let tree : Tree := ⟨[.group [.operator .minus], .operator .plus]⟩
    CoverPaths [[0], [0, 0], [0], [1]] tree ∧ CoverPaths [[1], [0, 0], [0]] tree ∧
      fresh.after ([[0], [0, 0], [0], [1]].map .mark) =
        fresh.after ([[1], [0, 0], [0]].map .mark) := by
  have hmarks : CoverPaths [[0], [0, 0], [0], [1]] ⟨[.group [.operator .minus], .operator .plus]⟩ :=
    ⟨by decide, by decide⟩
  have hmarks' : CoverPaths [[1], [0, 0], [0]] ⟨[.group [.operator .minus], .operator .plus]⟩ :=
    ⟨by decide, by decide⟩
  exact ⟨hmarks, hmarks', (marks_form_set.2 _ _ _ hmarks hmarks').1⟩

end Resolution

end ArithExpr
