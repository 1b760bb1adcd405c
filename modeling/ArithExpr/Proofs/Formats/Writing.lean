import ArithExpr.Proofs.Number.Distinct
import ArithExpr.Proofs.Processing.NormalForm

/-!
# Ways to write trees

The formats for trees write a run of nodes alike: node by node, each with a head that
says what it is, a group with its run and a tail behind the head.  They differ in the
heads and tails, in what stands between neighbours, and in what they keep track of on
the way into groups: a `Writing` is these choices.

From what is written the run can be recovered if a reader can always tell how to go on.
`Legible` says this of single steps: heads of different nodes differ, and nothing that can
follow a run looks like one more node.  By induction on the run, writing is then one to
one, whatever follows the run (`Legible.run_inj`).  Two of the formats show by margins
alone where a run ends, which is enough (`Margined.legible`).
-/

namespace ArithExpr

/-- An operator is one character, which tells it. -/
lemma Operator.symbol_append_inj {op op' : Operator} {text text' : List Char}
    (h : op.symbol.toList ++ text = op'.symbol.toList ++ text') : op = op' ∧ text = text' := by
  have hlength (op : Operator) : op.symbol.toList.length = 1 := by
    cases op <;> decide
  obtain ⟨hsymbol, htext⟩ := List.append_inj h ((hlength op).trans (hlength op').symm)
  refine ⟨?_, htext⟩
  revert hsymbol
  cases op <;> cases op' <;> decide

namespace Node

/-- Nodes of one form with one value or one operator; groups may hold different runs. -/
inductive Alike : Node → Node → Prop
  | literal (value : Double) : Alike (.literal value) (.literal value)
  | operator (op : Operator) : Alike (.operator op) (.operator op)
  | group (children children' : List Node) : Alike (.group children) (.group children')

/-- The form of a node tells its constructor. -/
lemma cases_of_form_eq {node node' : Node} (h : node.form = node'.form) :
    (∃ value value', node = .literal value ∧ node' = .literal value') ∨
      (∃ op op', node = .operator op ∧ node' = .operator op') ∨
      ∃ children children', node = .group children ∧ node' = .group children' := by
  have hoperator (op : Operator) :
      (operator op).form ≠ "Literal" ∧ (operator op).form ≠ "Group" := by
    cases op <;> decide
  have hgroup : "Literal" ≠ "Group" := by decide
  cases node with
  | literal value =>
    cases node' with
    | literal value' => exact Or.inl ⟨value, value', rfl, rfl⟩
    | operator op => exact absurd h.symm (hoperator op).1
    | group => exact absurd h hgroup
  | operator op =>
    cases node' with
    | literal => exact absurd h (hoperator op).1
    | operator op' => exact Or.inr (Or.inl ⟨op, op', rfl, rfl⟩)
    | group => exact absurd h (hoperator op).2
  | group children =>
    cases node' with
    | literal => exact absurd h.symm hgroup
    | operator op => exact absurd h.symm (hoperator op).2
    | group children' => exact Or.inr (Or.inr ⟨children, children', rfl, rfl⟩)

/-- A literal has no sign, if the node is one. -/
def IsUnsigned (node : Node) : Prop :=
  ∀ value ∈ node.value?, value.IsUnsigned

/-- No literal of a run has a sign. -/
def AllUnsigned (nodes : List Node) : Prop :=
  ∀ value ∈ valuesOfAll nodes, value.IsUnsigned

section Unsigned

variable {node : Node} {rest children : List Node}

lemma AllUnsigned.head (h : AllUnsigned (node :: rest)) : node.IsUnsigned := by
  intro value hvalue
  cases node with
  | literal found =>
    obtain rfl := Option.some.inj hvalue
    exact h found (List.mem_append_left _ List.mem_cons_self)
  | operator | group => cases hvalue

lemma AllUnsigned.tail (h : AllUnsigned (node :: rest)) : AllUnsigned rest :=
  fun value hvalue => h value (List.mem_append_right _ hvalue)

lemma AllUnsigned.inside (h : AllUnsigned (.group children :: rest)) : AllUnsigned children :=
  fun value hvalue => h value (List.mem_append_left _ hvalue)

end Unsigned

end Node

/-- How runs of nodes are written.  A place is what is kept track of on the way into groups. -/
structure Writing (Place : Type) where
  /-- What stands between neighbours. -/
  separator : List Char
  /-- What a node is written with: all of it, or in case of a group what stands in front of its run.
  It may depend on whether the node is the last of its run. -/
  head : Place → (isLast : Bool) → Node → List Char
  /-- The place inside a group. -/
  inner : Place → (isLast : Bool) → Place
  /-- What stands behind the run of a group, by whether the run is empty. -/
  tail : Place → (isEmpty : Bool) → List Char

namespace Writing

variable {Place : Type}

mutual

/-- A node as it is written. -/
def node (w : Writing Place) (place : Place) (isLast : Bool) : Node → List Char
  | .group children =>
    w.head place isLast (.group children) ++
      (w.run (w.inner place isLast) children ++ w.tail place children.isEmpty)
  | .literal value => w.head place isLast (.literal value)
  | .operator op => w.head place isLast (.operator op)

/-- A run as it is written. -/
def run (w : Writing Place) (place : Place) : List Node → List Char
  | [] => []
  | node :: rest =>
    w.node place rest.isEmpty node ++
      ((if rest.isEmpty then [] else w.separator) ++ w.run place rest)

end

/-- What can follow a node: what can follow its run, or a separator and one more node. -/
def Follows (w : Writing Place) (Ends : Place → List Char → Prop) (place : Place)
    (text : List Char) : Prop :=
  Ends place text ∨ ∃ isLast node rest, text = w.separator ++ (w.head place isLast node ++ rest)

/-- A reader can tell how to go on, if runs are followed by what `Ends` admits. -/
structure Legible (w : Writing Place) (Ends : Place → List Char → Prop) : Prop where
  /-- What follows a run does not look like a node. -/
  ends_ne_head {place text} (h : Ends place text) (isLast node rest) :
    text ≠ w.head place isLast node ++ rest
  /-- What follows a run does not look like one more node. -/
  ends_ne_separator {place text} (h : Ends place text) (isLast node rest) :
    text ≠ w.separator ++ (w.head place isLast node ++ rest)
  /-- The tail of a group can follow its run. -/
  ends_inner {place text} (h : w.Follows Ends place text) (isLast isEmpty) :
    Ends (w.inner place isLast) (w.tail place isEmpty ++ text)
  /-- The heads of different nodes differ, and so do those of groups that are read differently. -/
  head_inj {place isLast isLast' node node' text text'}
    (hunsigned : node.IsUnsigned) (hunsigned' : node'.IsUnsigned)
    (hfollows : node.group? = none → w.Follows Ends place text)
    (hfollows' : node'.group? = none → w.Follows Ends place text')
    (h : w.head place isLast node ++ text = w.head place isLast' node' ++ text') :
    Node.Alike node node' ∧ w.inner place isLast = w.inner place isLast' ∧ text = text'

section Reading

variable {w : Writing Place} {Ends : Place → List Char → Prop}

/-- What is written behind a node: the rest of its run, if there is any. -/
def after (w : Writing Place) (place : Place) (rest : List Node) : List Char :=
  (if rest.isEmpty then [] else w.separator) ++ w.run place rest

/-- What is written behind the head of a node. -/
def behind (w : Writing Place) (place : Place) (rest : List Node) : Node → List Char
  | .group children =>
    w.run (w.inner place rest.isEmpty) children ++
      (w.tail place children.isEmpty ++ w.after place rest)
  | .literal _ | .operator _ => w.after place rest

lemma run_nil (w : Writing Place) (place : Place) : w.run place [] = [] := by
  rw [run]

lemma run_cons (w : Writing Place) (place : Place) (node : Node) (rest : List Node) :
    w.run place (node :: rest) = w.head place rest.isEmpty node ++ w.behind place rest node := by
  rw [run]
  cases node with
  | literal | operator => rw [Writing.node, behind, after]
  | group children =>
    rw [Writing.node, behind, after, List.append_assoc, List.append_assoc]

lemma after_nil (w : Writing Place) (place : Place) : w.after place [] = [] := by
  rw [after, run_nil]
  rfl

lemma after_cons (w : Writing Place) (place : Place) (node : Node) (rest : List Node) :
    w.after place (node :: rest) =
      w.separator ++ (w.head place rest.isEmpty node ++ w.behind place rest node) := by
  rw [after, run_cons]
  rfl

variable {place : Place} {nodes nodes' rest rest' : List Node} {node : Node}
  {text text' : List Char}

/-- What is written behind a node can follow it. -/
lemma follows_after (hends : Ends place text) (rest : List Node) :
    w.Follows Ends place (w.after place rest ++ text) := by
  cases rest with
  | nil =>
    rw [after_nil]
    exact Or.inl hends
  | cons node rest =>
    rw [after_cons, List.append_assoc, List.append_assoc]
    exact Or.inr ⟨_, _, _, rfl⟩

/-- A separator tells whether the run goes on. -/
lemma Legible.after_inj (h : w.Legible Ends) (hends : Ends place text) (hends' : Ends place text')
    (hrun : w.run place rest ++ text = w.run place rest' ++ text' → rest = rest' ∧ text = text')
    (hafter : w.after place rest ++ text = w.after place rest' ++ text') :
    rest = rest' ∧ text = text' := by
  cases rest with
  | nil =>
    cases rest' with
    | nil => exact ⟨rfl, by rwa [after_nil] at hafter⟩
    | cons node' rest' =>
      rw [after_nil, after_cons, List.append_assoc, List.append_assoc] at hafter
      exact absurd hafter (h.ends_ne_separator hends _ _ _)
  | cons node rest =>
    cases rest' with
    | nil =>
      rw [after_nil, after_cons, List.append_assoc, List.append_assoc] at hafter
      exact absurd hafter.symm (h.ends_ne_separator hends' _ _ _)
    | cons node' rest' =>
      rw [after_cons, after_cons, ← run_cons, ← run_cons, List.append_assoc,
        List.append_assoc] at hafter
      exact hrun (List.append_cancel_left hafter)

/-- A run that begins with a node is recovered as one that begins with a node like it, and what is
behind their heads agrees. -/
lemma Legible.cons_inj (h : w.Legible Ends) (hunsigned : Node.AllUnsigned (node :: rest))
    (hunsigned' : Node.AllUnsigned nodes') (hends : Ends place text) (hends' : Ends place text')
    (hrun : w.run place (node :: rest) ++ text = w.run place nodes' ++ text') :
    ∃ node' rest', nodes' = node' :: rest' ∧ Node.Alike node node' ∧
      w.inner place rest.isEmpty = w.inner place rest'.isEmpty ∧
      w.behind place rest node ++ text = w.behind place rest' node' ++ text' := by
  -- Behind anything but a group stands what can follow it.
  have hfollows {node : Node} {rest : List Node} {text : List Char} (hends : Ends place text)
      (hgroup : node.group? = none) : w.Follows Ends place (w.behind place rest node ++ text) := by
    cases node with
    | literal | operator => exact follows_after hends rest
    | group => cases hgroup
  rw [run_cons, List.append_assoc] at hrun
  cases nodes' with
  | nil => exact absurd hrun.symm (h.ends_ne_head hends' _ _ _)
  | cons node' rest' =>
    rw [run_cons, List.append_assoc] at hrun
    exact ⟨node', rest', rfl,
      h.head_inj hunsigned.head hunsigned'.head (hfollows hends) (hfollows hends') hrun⟩

/-- A run can be recovered from what is written, and so can what follows it. -/
theorem Legible.run_inj (h : w.Legible Ends) (hunsigned : Node.AllUnsigned nodes)
    (hunsigned' : Node.AllUnsigned nodes') (hends : Ends place text) (hends' : Ends place text')
    (hrun : w.run place nodes ++ text = w.run place nodes' ++ text') :
    nodes = nodes' ∧ text = text' := by
  induction nodes using Node.run_induction generalizing nodes' place text text' with
  | nil =>
    cases nodes' with
    | nil => exact ⟨rfl, by rwa [run_nil] at hrun⟩
    | cons node' rest' =>
      rw [run_nil, run_cons, List.append_assoc] at hrun
      exact absurd hrun (h.ends_ne_head hends _ _ _)
  | literal value rest ih | operator op rest ih =>
    obtain ⟨_, rest', rfl, ⟨⟩, -, hbehind⟩ := h.cons_inj hunsigned hunsigned' hends hends' hrun
    obtain ⟨rfl, htext⟩ :=
      h.after_inj hends hends' (ih hunsigned.tail hunsigned'.tail hends hends') hbehind
    exact ⟨rfl, htext⟩
  | group children rest ihinner ih =>
    obtain ⟨_, rest', rfl, ⟨_, children'⟩, hinner, hbehind⟩ :=
      h.cons_inj hunsigned hunsigned' hends hends' hrun
    have hfollows := follows_after (w := w) hends rest
    have hfollows' := follows_after (w := w) hends' rest'
    simp only [behind, List.append_assoc, hinner] at hbehind
    obtain ⟨rfl, htail⟩ := ihinner hunsigned.inside hunsigned'.inside
      (h.ends_inner hfollows _ _) (h.ends_inner hfollows' _ _) hbehind
    obtain ⟨rfl, htext⟩ := h.after_inj hends hends'
      (ih hunsigned.tail hunsigned'.tail hends hends') (List.append_cancel_left htail)
    exact ⟨rfl, htext⟩

/-- Trees that are written alike are the same, when something that can follow a run stands behind
them. -/
lemma Legible.tree_inj (h : w.Legible Ends) {tree tree' : Tree}
    (hunsigned : Node.AllUnsigned tree.children) (hunsigned' : Node.AllUnsigned tree'.children)
    (hends : Ends place text) (hends' : Ends place text')
    (hrun : w.run place tree.children ++ text = w.run place tree'.children ++ text') :
    tree = tree' := by
  obtain ⟨hchildren, -⟩ := h.run_inj hunsigned hunsigned' hends hends' hrun
  exact congrArg Tree.mk hchildren

/-- Trees that are written alike are the same, when nothing stands behind them. -/
lemma Legible.tree_inj_of_ends_nil (h : w.Legible Ends) {tree tree' : Tree}
    (hunsigned : Node.AllUnsigned tree.children) (hunsigned' : Node.AllUnsigned tree'.children)
    (place : Place) (hends : Ends place [])
    (hrun : w.run place tree.children = w.run place tree'.children) : tree = tree' :=
  h.tree_inj hunsigned hunsigned' hends hends (congrArg (· ++ []) hrun)

end Reading

/-! ### Runs between margins -/

/-- A run whose nodes begin with a margin is followed by a text with another one, or by nothing. -/
def MarginEnds (margin text : List Char) : Prop :=
  text = [] ∨ ¬ margin <+: text

section Margins

variable {margin below text : List Char}

lemma not_marginEnds_append (hne : text ≠ []) : ¬ MarginEnds margin (margin ++ text) := by
  rintro (hnil | hmargin)
  · exact hne (List.append_eq_nil_iff.mp hnil).2
  · exact hmargin (List.prefix_append _ _)

lemma MarginEnds.append (h : MarginEnds margin text) : MarginEnds (margin ++ below) text :=
  h.imp id fun hmargin hprefix => hmargin ((List.prefix_append _ _).trans hprefix)

lemma marginEnds_append (h : ¬ below <+: text) : MarginEnds (margin ++ below) (margin ++ text) :=
  Or.inr fun hprefix => h ((List.prefix_append_right_inj margin).mp hprefix)

end Margins

/-- Every node begins with the margin of its place, and what stands behind the margin does not go on
like that of a place further in.  Runs have nothing else around or inside them. -/
structure Margined (w : Writing Place) (margin : Place → List Char) (below : Bool → List Char) :
    Prop where
  separator_eq : w.separator = []
  tail_eq (place isEmpty) : w.tail place isEmpty = []
  margin_inner (place isLast) : margin (w.inner place isLast) = margin place ++ below isLast
  exists_mark (place isLast node text) : ∃ mark, w.head place isLast node ++ text =
    margin place ++ mark ∧ mark ≠ [] ∧ ∀ isLast', ¬ below isLast' <+: mark
  head_inj {place isLast isLast' node node' text text'}
    (hunsigned : node.IsUnsigned) (hunsigned' : node'.IsUnsigned)
    (h : w.head place isLast node ++ text = w.head place isLast' node' ++ text') :
    Node.Alike node node' ∧ w.inner place isLast = w.inner place isLast' ∧ text = text'

section Margined

variable {w : Writing Place} {margin : Place → List Char} {below : Bool → List Char}

lemma Margined.not_marginEnds_head (h : w.Margined margin below) (place : Place) (isLast : Bool)
    (node : Node) (text : List Char) :
    ¬ MarginEnds (margin place) (w.head place isLast node ++ text) := by
  obtain ⟨mark, hmark, hne, -⟩ := h.exists_mark place isLast node text
  rw [hmark]
  exact not_marginEnds_append hne

/-- A run goes on as long as the next node has its margin. -/
theorem Margined.legible (h : w.Margined margin below) :
    w.Legible fun place => MarginEnds (margin place) where
  ends_ne_head := by
    rintro place _ hends isLast node rest rfl
    exact h.not_marginEnds_head place isLast node rest hends
  ends_ne_separator := by
    rintro place _ hends isLast node rest rfl
    rw [h.separator_eq, List.nil_append] at hends
    exact h.not_marginEnds_head place isLast node rest hends
  ends_inner := by
    intro place text hfollows isLast isEmpty
    rw [h.tail_eq, List.nil_append, h.margin_inner]
    obtain hends | ⟨isLast', node, rest, rfl⟩ := hfollows
    · exact hends.append
    · obtain ⟨mark, hmark, -, hbelow⟩ := h.exists_mark place isLast' node rest
      rw [h.separator_eq, List.nil_append, hmark]
      exact marginEnds_append (hbelow isLast)
  head_inj := fun hunsigned hunsigned' _ _ heq => h.head_inj hunsigned hunsigned' heq

end Margined

end Writing

end ArithExpr
