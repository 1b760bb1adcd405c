import ArithExpr.Proofs.Token.Scanned
import ArithExpr.Proofs.Tree.Spelling
import ArithExpr.Proofs.Validity.Rules

/-!
# Renderings and admissible trees

`Renders nodes kinds` is the grammar of expressions on kinds of tokens alone: a group
is its run in parentheses, an operator its symbol, and a literal a number with or
without a fraction.  `Tree.Admissible` says of a tree where its operators may stand.

Two statements tie this grammar to the program.  What a stream spells is rendered by
its kinds, and a stream of digit runs whose kinds render a tree spells one of the same
shape (`Renders.exists_spells`).  The operator rule, which looks at neighbours in the
flat stream, holds for the kinds of a rendering exactly when the tree is admissible
(`Renders.operatorRule_iff`).
-/

namespace ArithExpr

/-- A tree node without the value of its literals. -/
inductive Shape where
  | literal
  | operator (op : Operator)
  | group (children : List Shape)

namespace Node

mutual

/-- The shape of a node. -/
def shape : Node → Shape
  | .literal _ => .literal
  | .operator op => .operator op
  | .group children => .group (shapes children)

/-- The shapes of a run of nodes. -/
def shapes : List Node → List Shape
  | [] => []
  | node :: rest => node.shape :: shapes rest

end

mutual

/-- Every run inside a node has a property. -/
def EveryRun (P : List Node → Prop) : Node → Prop
  | .group children => P children ∧ EveryRunOfAll P children
  | _ => True

/-- Every run inside the nodes of a run has a property. -/
def EveryRunOfAll (P : List Node → Prop) : List Node → Prop
  | [] => True
  | node :: rest => node.EveryRun P ∧ EveryRunOfAll P rest

end

/-- In a run, an operator right behind an operator is a `-` with a literal right behind it. -/
def OperatorsSpaced (nodes : List Node) : Prop :=
  ∀ (place : Nat) (first second : Operator), nodes[place]? = some (.operator first) →
    nodes[place + 1]? = some (.operator second) →
      second = .minus ∧ ∃ value, nodes[place + 2]? = some (.literal value)

/-- A run does not end on an operator. -/
def NoOperatorLast (nodes : List Node) : Prop :=
  ∀ op, nodes.getLast? ≠ some (.operator op)

@[simp] lemma everyRunOfAll_nil (P : List Node → Prop) : EveryRunOfAll P [] := by
  rw [EveryRunOfAll]
  trivial

@[simp] lemma everyRunOfAll_cons (P : List Node → Prop) (node : Node) (rest : List Node) :
    EveryRunOfAll P (node :: rest) ↔ node.EveryRun P ∧ EveryRunOfAll P rest := by
  rw [EveryRunOfAll]

@[simp] lemma everyRun_literal (P : List Node → Prop) (value : Double) :
    (literal value).EveryRun P := by
  simp [EveryRun]

@[simp] lemma everyRun_operator (P : List Node → Prop) (op : Operator) :
    (operator op).EveryRun P := by
  simp [EveryRun]

@[simp] lemma everyRun_group (P : List Node → Prop) (children : List Node) :
    (group children).EveryRun P ↔ P children ∧ EveryRunOfAll P children := by
  rw [EveryRun]

/-- A node that is an operator is some operator. -/
lemma exists_of_isOperator {node : Node} (h : node.isOperator = true) :
    ∃ op, node = .operator op := by
  cases node with
  | operator op => exact ⟨op, rfl⟩
  | literal | group => cases h

/-- A first node matters to the two behind it only. -/
lemma operatorsSpaced_cons (node : Node) (rest : List Node) :
    OperatorsSpaced (node :: rest) ↔
      (∀ first second back, node = .operator first → rest = .operator second :: back →
        second = .minus ∧ ∃ value, back.head? = some (.literal value)) ∧
        OperatorsSpaced rest := by
  constructor
  · intro h
    refine ⟨?_, fun place first second hfirst hsecond => ?_⟩
    · rintro first second back rfl rfl
      simpa [List.head?_eq_getElem?] using h 0 first second rfl rfl
    · exact h (place + 1) first second (by simpa using hfirst) (by simpa using hsecond)
  · rintro ⟨hzero, hsucc⟩ (_ | place) first second hfirst hsecond
    · cases rest with
      | nil => simp at hsecond
      | cons next back =>
        obtain rfl : next = .operator second := by simpa using hsecond
        simpa [List.head?_eq_getElem?] using hzero first second back (by simpa using hfirst) rfl
    · exact hsucc place first second (by simpa using hfirst) (by simpa using hsecond)

/-- A node that is no operator can stand in front of any run. -/
lemma operatorsSpaced_cons_of_not_operator (node : Node) (h : node.isOperator = false)
    (rest : List Node) : OperatorsSpaced (node :: rest) ↔ OperatorsSpaced rest := by
  rw [operatorsSpaced_cons]
  refine and_iff_right ?_
  rintro first second back rfl
  cases h

/-- An operator asks for what comes next. -/
lemma operatorsSpaced_operator_cons (op : Operator) (rest : List Node) :
    OperatorsSpaced (.operator op :: rest) ↔
      (∀ second back, rest = .operator second :: back →
        second = .minus ∧ ∃ value, back.head? = some (.literal value)) ∧
        OperatorsSpaced rest := by
  rw [operatorsSpaced_cons]
  exact and_congr_left fun _ => ⟨fun h second back => h op second back rfl,
    fun h _ second back _ => h second back⟩

/-- A node that is no operator does not matter to the end. -/
lemma noOperatorLast_cons_of_not_operator (node : Node) (h : node.isOperator = false)
    (rest : List Node) : NoOperatorLast (node :: rest) ↔ NoOperatorLast rest := by
  cases rest with
  | nil => cases node <;> simp_all [NoOperatorLast, isOperator]
  | cons next back => simp [NoOperatorLast]

/-- An operator at the front is not the end when a run that has a good end follows. -/
lemma noOperatorLast_operator_cons (op : Operator) (rest : List Node) :
    NoOperatorLast (.operator op :: rest) ↔ rest ≠ [] ∧ NoOperatorLast rest := by
  cases rest with
  | nil => simp [NoOperatorLast]
  | cons next back => simp [NoOperatorLast]

/-- Runs inside the nodes of two runs side by side are inside those of the one or of the other. -/
@[simp] lemma everyRunOfAll_append (P : List Node → Prop) (front back : List Node) :
    EveryRunOfAll P (front ++ back) ↔ EveryRunOfAll P front ∧ EveryRunOfAll P back := by
  induction front with
  | nil => simp
  | cons node rest ih => simp only [List.cons_append, everyRunOfAll_cons, ih, and_assoc]

/-- Behind a run that does not end on an operator, another run does not come too close. -/
lemma OperatorsSpaced.append {front back : List Node} (hfront : OperatorsSpaced front)
    (hlast : NoOperatorLast front) (hback : OperatorsSpaced back) :
    OperatorsSpaced (front ++ back) := by
  induction front with
  | nil => exact hback
  | cons node rest ih =>
    rw [List.cons_append]
    cases hnode : node.isOperator with
    | false =>
      rw [operatorsSpaced_cons_of_not_operator node hnode] at hfront ⊢
      rw [noOperatorLast_cons_of_not_operator node hnode] at hlast
      exact ih hfront hlast
    | true =>
      obtain ⟨op, rfl⟩ := exists_of_isOperator hnode
      rw [operatorsSpaced_operator_cons] at hfront ⊢
      obtain ⟨hnext, hrest⟩ := hfront
      obtain ⟨hne, hlast⟩ := (noOperatorLast_operator_cons op rest).mp hlast
      refine ⟨?_, ih hrest hlast⟩
      intro second behind hsplit
      obtain ⟨next, within, rfl⟩ := List.exists_cons_of_ne_nil hne
      rw [List.cons_append] at hsplit
      obtain ⟨rfl, rfl⟩ := List.cons.inj hsplit
      obtain ⟨hminus, value, hvalue⟩ := hnext second within rfl
      exact ⟨hminus, value, by rw [List.head?_append, hvalue, Option.some_or]⟩

/-- Two runs that do not end on an operator make up one that does not. -/
lemma NoOperatorLast.append {front back : List Node} (hfront : NoOperatorLast front)
    (hback : NoOperatorLast back) : NoOperatorLast (front ++ back) := by
  intro op hop
  rw [List.getLast?_append] at hop
  rcases Option.or_eq_some_iff.mp hop with h | ⟨-, h⟩
  · exact hback op h
  · exact hfront op h

end Node

namespace Tree

/-- The shape of a tree: that of its outermost run. -/
def shapes (tree : Tree) : List Shape :=
  Node.shapes tree.children

/-- The operators of a tree stand where they may: in every run they are spaced, and the outermost
run does not end on one. -/
structure Admissible (tree : Tree) : Prop where
  spaced : Node.OperatorsSpaced tree.children
  spaced_inside : Node.EveryRunOfAll Node.OperatorsSpaced tree.children
  last : Node.NoOperatorLast tree.children

/-- Admissible runs side by side make up an admissible tree. -/
lemma Admissible.append {front back : List Node} (hfront : Admissible ⟨front⟩)
    (hback : Admissible ⟨back⟩) : Admissible ⟨front ++ back⟩ where
  spaced := hfront.spaced.append hfront.last hback.spaced
  spaced_inside :=
    (Node.everyRunOfAll_append _ front back).mpr ⟨hfront.spaced_inside, hback.spaced_inside⟩
  last := hfront.last.append hback.last

/-- A literal alone is an admissible tree. -/
lemma admissible_literal (value : Double) : Admissible ⟨[.literal value]⟩ where
  spaced := by simp [Node.OperatorsSpaced]
  spaced_inside := by simp
  last := by simp [Node.NoOperatorLast]

/-- An admissible run in parentheses is an admissible tree. -/
lemma Admissible.group {children : List Node} (h : Admissible ⟨children⟩) :
    Admissible ⟨[.group children]⟩ where
  spaced := by simp [Node.OperatorsSpaced]
  spaced_inside := by simpa using ⟨h.spaced, h.spaced_inside⟩
  last := by simp [Node.NoOperatorLast]

/-- An admissible run in parentheses behind an operator is an admissible tree. -/
lemma Admissible.operator_group {children : List Node} (op : Operator)
    (h : Admissible ⟨children⟩) : Admissible ⟨[.operator op, .group children]⟩ where
  spaced := by
    rw [Node.operatorsSpaced_operator_cons]
    exact ⟨nofun, h.group.spaced⟩
  spaced_inside := by simpa using ⟨h.spaced, h.spaced_inside⟩
  last := by simp [Node.NoOperatorLast]

open Token

/-- The kinds are those that the nodes are written with, in order, whatever the literals are. -/
inductive Renders : List Node → List Kind → Prop
  | nil : Renders [] []
  | whole {value : Double} {nodes : List Node} {kinds : List Kind} (rest : Renders nodes kinds) :
      Renders (.literal value :: nodes) (.number :: kinds)
  | decimal {value : Double} {nodes : List Node} {kinds : List Kind} (rest : Renders nodes kinds) :
      Renders (.literal value :: nodes) (.number :: .point :: .number :: kinds)
  | operator {op : Operator} {nodes : List Node} {kinds : List Kind} (rest : Renders nodes kinds) :
      Renders (.operator op :: nodes) (op.kind :: kinds)
  | group {children nodes : List Node} {within kinds : List Kind} (inner : Renders children within)
      (rest : Renders nodes kinds) :
      Renders (.group children :: nodes) (.leftParen :: (within ++ .rightParen :: kinds))

/-! ### Renderings and spelled streams -/

/-- The kinds of a stream render what the stream spells. -/
lemma Spells.renders {tokens : List Token} {nodes : List Node} (h : Spells tokens nodes) :
    Renders nodes (tokens.map Token.kind) := by
  induction h with
  | nil => exact .nil
  | whole _ _ ih => exact .whole ih
  | decimal _ _ ih => exact .decimal ih
  | operator hop _ ih =>
    rw [List.map_cons, operatorOf?_eq_some_iff.mp hop]
    exact .operator ih
  | group _ _ ihinner ih =>
    simp only [List.map_cons, List.map_append]
    exact .group ihinner ih

/-- When its numbers are digit runs, a stream whose kinds render a run spells a run of the same
shape. -/
theorem Renders.exists_spells {nodes : List Node} {tokens : List Token}
    (h : Renders nodes (tokens.map Token.kind)) (hdigits : DigitNumbers tokens) :
    ∃ nodes', Spells tokens nodes' ∧ Node.shapes nodes' = Node.shapes nodes ∧
      Node.depthOfAll nodes' = Node.depthOfAll nodes := by
  generalize hmap : tokens.map Token.kind = kinds at h
  induction h generalizing tokens with
  | nil =>
    obtain rfl := List.map_eq_nil_iff.mp hmap
    exact ⟨[], .nil, rfl, rfl⟩
  | whole _ ih =>
    obtain ⟨⟨kind, text⟩, rest, rfl, rfl, hrest⟩ := List.map_eq_cons_iff.mp hmap
    obtain ⟨hdigit, hdigits⟩ := List.forall_mem_cons.mp hdigits
    obtain ⟨value, hvalue⟩ := Numeral.exists_double?_of_isDigitRun (hdigit rfl)
    obtain ⟨nodes', hspells, hshapes, hdepth⟩ := ih hdigits hrest
    refine ⟨.literal value :: nodes', .whole hvalue hspells, ?_, by simp [hdepth]⟩
    simp [Node.shapes, Node.shape, hshapes]
  | decimal _ ih =>
    obtain ⟨⟨kind, whole⟩, rest, rfl, rfl, hpoint⟩ := List.map_eq_cons_iff.mp hmap
    obtain ⟨⟨kind, point⟩, rest, rfl, rfl, hfraction⟩ := List.map_eq_cons_iff.mp hpoint
    obtain ⟨⟨kind, fraction⟩, rest, rfl, rfl, hrest⟩ := List.map_eq_cons_iff.mp hfraction
    obtain ⟨hdigit, hdigits⟩ := List.forall_mem_cons.mp hdigits
    obtain ⟨-, hdigits⟩ := List.forall_mem_cons.mp hdigits
    obtain ⟨hdigit', hdigits⟩ := List.forall_mem_cons.mp hdigits
    obtain ⟨value, hvalue⟩ := Numeral.exists_double?_of_decimal (hdigit rfl) (hdigit' rfl)
    obtain ⟨nodes', hspells, hshapes, hdepth⟩ := ih hdigits hrest
    refine ⟨.literal value :: nodes', .decimal hvalue hspells, ?_, by simp [hdepth]⟩
    simp [Node.shapes, Node.shape, hshapes]
  | @operator op _ _ _ ih =>
    obtain ⟨token, rest, rfl, hkind, hrest⟩ := List.map_eq_cons_iff.mp hmap
    obtain ⟨-, hdigits⟩ := List.forall_mem_cons.mp hdigits
    obtain ⟨nodes', hspells, hshapes, hdepth⟩ := ih hdigits hrest
    refine ⟨.operator op :: nodes', .operator (operatorOf?_eq_some_iff.mpr hkind) hspells, ?_,
      by simp [hdepth]⟩
    simp [Node.shapes, Node.shape, hshapes]
  | group _ _ ihinner ih =>
    obtain ⟨⟨kind, opening⟩, rest, rfl, rfl, hinside⟩ := List.map_eq_cons_iff.mp hmap
    obtain ⟨within, rest, rfl, hinner, hclose⟩ := List.map_eq_append_iff.mp hinside
    obtain ⟨⟨kind, closing⟩, rest, rfl, rfl, hrest⟩ := List.map_eq_cons_iff.mp hclose
    simp only [DigitNumbers, List.forall_mem_cons, List.forall_mem_append] at hdigits
    obtain ⟨-, hwithin, -, hdigits⟩ := hdigits
    obtain ⟨children', hspells', hshapes', hdepth'⟩ := ihinner hwithin hinner
    obtain ⟨nodes', hspells, hshapes, hdepth⟩ := ih hdigits hrest
    refine ⟨.group children' :: nodes', .group hspells' hspells, ?_, by simp [hdepth, hdepth']⟩
    simp [Node.shapes, Node.shape, hshapes, hshapes']

/-! ### The operator rule on renderings -/

/-- Kinds that end a run: none, or a `)` first. -/
def EndsRun (kinds : List Kind) : Prop :=
  ∀ kind ∈ kinds.head?, kind = .rightParen

section OperatorRule

open Validity Node

variable {nodes : List Node} {kinds tail : List Kind}

/-- A rendered run begins with a number when its first node is a literal. -/
lemma Renders.head?_eq_number_iff (h : Renders nodes kinds) (htail : EndsRun tail) :
    (kinds ++ tail).head? = some .number ↔ ∃ value, nodes.head? = some (.literal value) := by
  cases h with
  | nil =>
    refine ⟨fun hhead => ?_, by simp⟩
    exact absurd (htail _ hhead) (by decide)
  | whole | decimal | group => simp
  | @operator op => cases op <;> simp [Operator.kind]

/-- Behind an operator a rendered run goes on as the operator rule wants it when the operator is not
the last thing of all, and only a `-` in front of a literal is an operator right behind it. -/
lemma Renders.continuesOperator_iff (h : Renders nodes kinds) (htail : EndsRun tail) :
    ContinuesOperator (kinds ++ tail) ↔
      (nodes = [] → tail ≠ []) ∧ ∀ second back, nodes = .operator second :: back →
        second = .minus ∧ ∃ value, back.head? = some (.literal value) := by
  cases h with
  | nil =>
    cases tail with
    | nil => simp [ContinuesOperator]
    | cons kind rest =>
      obtain rfl := htail kind rfl
      simp [ContinuesOperator, Kind.isNormalOperator]
  | whole | decimal | group => simp [ContinuesOperator, Kind.isNormalOperator]
  | @operator op _ _ hrest =>
    rw [List.cons_append, ContinuesOperator, hrest.head?_eq_number_iff htail]
    cases op <;> simp [Operator.kind, Kind.isNormalOperator]

/-- The operator rule holds for the kinds of a rendered run and what follows it when the operators
are spaced in every run, the rule holds for what follows, and something does if the run ends on an
operator. -/
lemma Renders.operatorRule_append_iff (h : Renders nodes kinds) (htail : EndsRun tail) :
    OperatorRule (kinds ++ tail) ↔
      (OperatorsSpaced nodes ∧ EveryRunOfAll OperatorsSpaced nodes) ∧
        (tail = [] → NoOperatorLast nodes) ∧ OperatorRule tail := by
  induction h generalizing tail with
  | nil => simp [OperatorsSpaced, NoOperatorLast]
  | whole _ ih =>
    rw [List.cons_append, operatorRule_cons_of_not_operator rfl, ih htail,
      operatorsSpaced_cons_of_not_operator (.literal _) rfl,
      noOperatorLast_cons_of_not_operator (.literal _) rfl]
    simp
  | decimal _ ih =>
    simp only [List.cons_append]
    rw [operatorRule_cons_of_not_operator rfl, operatorRule_cons_of_not_operator rfl,
      operatorRule_cons_of_not_operator rfl, ih htail,
      operatorsSpaced_cons_of_not_operator (.literal _) rfl,
      noOperatorLast_cons_of_not_operator (.literal _) rfl]
    simp
  | @operator op nodes kinds hrest ih =>
    rw [List.cons_append, operatorRule_cons_of_operator (by cases op <;> rfl), ih htail,
      hrest.continuesOperator_iff htail, operatorsSpaced_operator_cons,
      noOperatorLast_operator_cons, everyRunOfAll_cons]
    simp only [everyRun_operator, true_and]
    tauto
  | @group children nodes within kinds _ _ ihinner ih =>
    rw [List.cons_append, operatorRule_cons_of_not_operator rfl, List.append_assoc,
      List.cons_append, ihinner (by simp [EndsRun]), operatorRule_cons_of_not_operator rfl,
      ih htail, operatorsSpaced_cons_of_not_operator (.group _) rfl,
      noOperatorLast_cons_of_not_operator (.group _) rfl, everyRunOfAll_cons,
      everyRun_group]
    simp only [reduceCtorEq, false_imp_iff, true_and]
    tauto

/-- The operator rule holds for the kinds of a rendering when the tree is admissible. -/
theorem Renders.operatorRule_iff {tree : Tree} (h : Renders tree.children kinds) :
    OperatorRule kinds ↔ tree.Admissible := by
  have hend : EndsRun [] := by simp [EndsRun]
  have hrule := h.operatorRule_append_iff hend
  rw [List.append_nil] at hrule
  rw [hrule]
  constructor
  · rintro ⟨⟨hspaced, hinside⟩, hlast, -⟩
    exact ⟨hspaced, hinside, hlast rfl⟩
  · rintro ⟨hspaced, hinside, hlast⟩
    exact ⟨⟨hspaced, hinside⟩, fun _ => hlast, trivial⟩

end OperatorRule

end Tree

end ArithExpr
