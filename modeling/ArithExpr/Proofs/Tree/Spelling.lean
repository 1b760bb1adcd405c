import ArithExpr.Proofs.Tree.Steps

/-!
# What a stream spells

`Spells tokens nodes` relates a stream to the run of nodes it is written for, one rule
for each form of a node and no word about states or limits.  The main statement is
`ofTokens_eq_ok_iff`: the reader gives a tree exactly when the stream spells it and it
is not too deep.

One direction goes by the rules (`readFrom_of_spells`): reading takes a spelled run
from the front of a stream and puts its nodes on the innermost open run.  The other
goes by the reader's steps.  In the middle of a reading several runs are open, and
`Completes` says what the rest of the stream has to be for each of them to be closed.
-/

namespace ArithExpr

/-- The kind of token that an operator is written with. -/
def Operator.kind : Operator → Token.Kind
  | .multiply => .multiply
  | .divide => .divide
  | .plus => .plus
  | .minus => .minus

namespace Tree

open Token

/-- An operator is read from its own kind only. -/
lemma operatorOf?_eq_some_iff {kind : Kind} {op : Operator} :
    operatorOf? kind = some op ↔ kind = op.kind := by
  cases kind <;> cases op <;> decide

/-- The tokens are those that the nodes are written with, in order. -/
inductive Spells : List Token → List Node → Prop
  | nil : Spells [] []
  | whole {text : String} {value : Double} {tokens : List Token} {nodes : List Node}
      (hvalue : Numeral.double? text.toList = some value) (rest : Spells tokens nodes) :
      Spells (⟨.number, text⟩ :: tokens) (.literal value :: nodes)
  | decimal {whole point fraction : String} {value : Double} {tokens : List Token}
      {nodes : List Node}
      (hvalue : Numeral.double? (whole.toList ++ '.' :: fraction.toList) = some value)
      (rest : Spells tokens nodes) :
      Spells (⟨.number, whole⟩ :: ⟨.point, point⟩ :: ⟨.number, fraction⟩ :: tokens)
        (.literal value :: nodes)
  | operator {token : Token} {op : Operator} {tokens : List Token} {nodes : List Node}
      (hop : operatorOf? token.kind = some op) (rest : Spells tokens nodes) :
      Spells (token :: tokens) (.operator op :: nodes)
  | group {opening closing : String} {within tokens : List Token} {children nodes : List Node}
      (inner : Spells within children) (rest : Spells tokens nodes) :
      Spells (⟨.leftParen, opening⟩ :: (within ++ ⟨.rightParen, closing⟩ :: tokens))
        (.group children :: nodes)

/-- An operator is not written with a parenthesis, a number or a point. -/
lemma kind_of_operatorOf? {kind : Kind} {op : Operator} (h : operatorOf? kind = some op) :
    kind ≠ .number ∧ kind ≠ .leftParen ∧ kind ≠ .rightParen ∧ kind ≠ .point := by
  cases kind <;> simp_all [operatorOf?]

/-- No node begins with a point. -/
lemma Spells.noPointAhead {tokens : List Token} {nodes : List Node} (h : Spells tokens nodes) :
    NoPointAhead tokens := by
  cases h with
  | nil => exact noPointAhead_nil
  | whole | decimal | group => simp
  | operator hop => simpa using (kind_of_operatorOf? hop).2.2.2

/-! ### Reading what is spelled -/

/-- Go over `count` tokens that spell a run of nodes, with some parentheses among them. -/
def State.addAll (state : State) (count : Nat) (nodes : List Node) (brackets : List Bracket) :
    State :=
  ⟨state.index + count, nodes.reverse ++ state.nodes, state.enclosing, brackets⟩

section Read

variable {limit : Nat} {state : State} {tokens rest : List Token}

/-- One node and a run behind it are one run. -/
lemma State.addAll_add (count count' : Nat) (node : Node) (nodes : List Node)
    (brackets : List Bracket) :
    (state.add count node).addAll count' nodes brackets =
      state.addAll (count' + count) (node :: nodes) brackets := by
  simp [add, addAll, Nat.add_assoc, Nat.add_comm count]

/-- A number with no point behind it is read alone. -/
lemma readFrom_whole {text : String} {value : Double}
    (hvalue : Numeral.double? text.toList = some value) (hrest : NoPointAhead rest) :
    readFrom limit state (⟨.number, text⟩ :: rest) =
      readFrom limit (state.add 1 (.literal value)) rest := by
  rw [readFrom, hvalue]
  rintro point fraction rest' rfl
  simp at hrest

/-- A number, a point and a number are read together. -/
lemma readFrom_decimal {whole point fraction : String} {value : Double}
    (hvalue : Numeral.double? (whole.toList ++ '.' :: fraction.toList) = some value) :
    readFrom limit state (⟨.number, whole⟩ :: ⟨.point, point⟩ :: ⟨.number, fraction⟩ :: rest) =
      readFrom limit (state.add 3 (.literal value)) rest := by
  rw [readFrom, hvalue]

/-- An operator is read as a node. -/
lemma readFrom_operator {token : Token} {op : Operator} (hop : operatorOf? token.kind = some op) :
    readFrom limit state (token :: rest) = readFrom limit (state.add 1 (.operator op)) rest := by
  obtain ⟨kind, text⟩ := token
  obtain ⟨hnumber, hopen, hclose, -⟩ := kind_of_operatorOf? hop
  rw [readFrom, hop]
  · rintro _ _ _ rfl rfl
    exact hnumber rfl
  · exact hnumber
  · exact hopen
  · exact hclose

/-- What a stream spells is read from its front, whatever follows, as long as that does not begin
with a point: the nodes come to the innermost open run. -/
theorem readFrom_of_spells {nodes : List Node} (h : Spells tokens nodes) (state : State)
    (hrest : NoPointAhead rest) (hdepth : Node.depthOfAll nodes + state.depth ≤ limit) :
    ∃ brackets, readFrom limit state (tokens ++ rest) =
      readFrom limit (state.addAll tokens.length nodes brackets) rest := by
  induction h generalizing state rest with
  | nil => exact ⟨state.brackets, by simp [State.addAll]⟩
  | @whole text value tokens nodes hvalue hspells ih =>
    rw [Node.depthOfAll_cons, Node.depth_literal, Nat.zero_max] at hdepth
    obtain ⟨brackets, ih⟩ := ih (state.add 1 (.literal value)) hrest hdepth
    refine ⟨brackets, ?_⟩
    rw [List.cons_append, readFrom_whole hvalue (hspells.noPointAhead.append hrest), ih,
      State.addAll_add, List.length_cons]
  | @decimal whole point fraction value tokens nodes hvalue hspells ih =>
    rw [Node.depthOfAll_cons, Node.depth_literal, Nat.zero_max] at hdepth
    obtain ⟨brackets, ih⟩ := ih (state.add 3 (.literal value)) hrest hdepth
    refine ⟨brackets, ?_⟩
    rw [List.cons_append, List.cons_append, List.cons_append, readFrom_decimal hvalue, ih,
      State.addAll_add]
    rfl
  | @operator token op tokens nodes hop hspells ih =>
    rw [Node.depthOfAll_cons, Node.depth_operator, Nat.zero_max] at hdepth
    obtain ⟨brackets, ih⟩ := ih (state.add 1 (.operator op)) hrest hdepth
    refine ⟨brackets, ?_⟩
    rw [List.cons_append, readFrom_operator hop, ih, State.addAll_add, List.length_cons]
  | @group opening closing within tokens children nodes hinner hspells ihinner ih =>
    rw [Node.depthOfAll_cons, Node.depth_group] at hdepth
    have hlimit : state.depth ≠ limit := by omega
    have hopened : state.openGroup.depth = state.depth + 1 := rfl
    have hclose : NoPointAhead (⟨.rightParen, closing⟩ :: (tokens ++ rest)) := by simp
    obtain ⟨inside, ihinner⟩ := ihinner state.openGroup hclose (by omega)
    -- the group is closed in front of the rest, so the run around it goes on from there
    set closed : State := (state.openGroup.addAll within.length children inside).closeGroup
      state.nodes state.enclosing with hclosed
    have hdepth' : closed.depth = state.depth := rfl
    obtain ⟨brackets, ih⟩ := ih closed hrest (by omega)
    have hstate : closed.addAll tokens.length nodes brackets =
        state.addAll (within.length + 1 + tokens.length + 1) (.group children :: nodes)
          brackets := by
      simp [hclosed, State.addAll, State.closeGroup, State.openGroup]
      omega
    refine ⟨brackets, ?_⟩
    calc readFrom limit state
          (⟨.leftParen, opening⟩ :: (within ++ ⟨.rightParen, closing⟩ :: tokens) ++ rest)
        = readFrom limit state.openGroup
            (within ++ ⟨.rightParen, closing⟩ :: (tokens ++ rest)) := by
          rw [List.cons_append, readFrom, if_neg hlimit, List.append_assoc, List.cons_append]
      _ = readFrom limit (state.openGroup.addAll within.length children inside)
            (⟨.rightParen, closing⟩ :: (tokens ++ rest)) := ihinner
      _ = readFrom limit closed (tokens ++ rest) := by
          rw [readFrom]
          rfl
      _ = readFrom limit (state.addAll _ (.group children :: nodes) brackets) rest := by
          rw [ih, hstate]
          congr 2
          simp [Nat.add_assoc, Nat.add_comm 1]

/-- A whole stream that spells a run is read as the tree with that run at its root. -/
lemma result_of_spells {nodes : List Node} (h : Spells tokens nodes)
    (hdepth : Node.depthOfAll nodes ≤ limit) :
    (readFrom limit .start tokens).result = .ok ⟨nodes⟩ := by
  obtain ⟨brackets, hread⟩ := readFrom_of_spells h .start noPointAhead_nil hdepth
  rw [List.append_nil] at hread
  rw [hread]
  simp [readFrom, State.finish, State.addAll, State.start]

/-- A stream spells one run at most. -/
theorem Spells.unique {nodes nodes' : List Node} (h : Spells tokens nodes)
    (h' : Spells tokens nodes') : nodes = nodes' := by
  have hread := result_of_spells h (Nat.le_max_left _ (Node.depthOfAll nodes'))
  rw [result_of_spells h' (Nat.le_max_right _ _)] at hread
  injection hread with htree
  exact (Tree.mk.inj htree).symm

end Read

/-! ### Only what is spelled is read -/

/-- The rest of a stream completes the open runs to the root `root`: what it spells up to a `)` is
the end of the innermost run, and the group that this closes goes to the run around it.  The runs
have their latest node first. -/
def Completes (limit : Nat) : List Node → List (List Node) → List Token → List Node → Prop
  | nodes, [], tokens, root =>
    ∃ more, Spells tokens more ∧ Node.depthOfAll more ≤ limit ∧ root = nodes.reverse ++ more
  | nodes, outer :: around, tokens, root =>
    ∃ more within text rest, tokens = within ++ ⟨.rightParen, text⟩ :: rest ∧ Spells within more ∧
      Node.depthOfAll more + (around.length + 1) ≤ limit ∧
      Completes limit (.group (nodes.reverse ++ more) :: outer) around rest root

section Complete

variable {limit : Nat} {nodes root : List Node} {enclosing : List (List Node)}
  {tokens : List Token}

/-- A node that is spelled in front of the rest can be counted to the rest. -/
lemma Completes.of_cons {node : Node} (front : List Token)
    (h : Completes limit (node :: nodes) enclosing tokens root)
    (hfront : ∀ {back more}, Spells back more → Spells (front ++ back) (node :: more))
    (hdepth : node.depth + enclosing.length ≤ limit) :
    Completes limit nodes enclosing (front ++ tokens) root := by
  cases enclosing with
  | nil =>
    obtain ⟨more, hspells, hmore, rfl⟩ := h
    refine ⟨node :: more, hfront hspells, ?_, by simp⟩
    rw [Node.depthOfAll_cons]
    exact Nat.max_le.mpr ⟨hdepth, hmore⟩
  | cons outer around =>
    obtain ⟨more, within, text, rest, rfl, hspells, hmore, h⟩ := h
    refine ⟨node :: more, front ++ within, text, rest, by simp, hfront hspells, ?_, ?_⟩
    · rw [List.length_cons] at hdepth
      rw [Node.depthOfAll_cons]
      omega
    · simpa using h

/-- A `)` closes a group whose run ends in front of it. -/
lemma completes_close {outer : List Node} {text : String}
    (h : Completes limit (.group nodes.reverse :: outer) enclosing tokens root)
    (hdepth : enclosing.length + 1 ≤ limit) :
    Completes limit nodes (outer :: enclosing) (⟨.rightParen, text⟩ :: tokens) root :=
  ⟨[], [], text, tokens, rfl, .nil, by simpa using hdepth, by simpa using h⟩

/-- A `(` opens a group that the rest closes. -/
lemma completes_open {text : String} (h : Completes limit [] (nodes :: enclosing) tokens root) :
    Completes limit nodes enclosing (⟨.leftParen, text⟩ :: tokens) root := by
  obtain ⟨more, within, closing, rest, rfl, hspells, hmore, h⟩ := h
  have hgroup : Completes limit nodes enclosing
      ((⟨.leftParen, text⟩ :: (within ++ [⟨.rightParen, closing⟩])) ++ rest) root := by
    refine h.of_cons _ (fun hback => ?_) ?_
    · simpa using Spells.group hspells hback
    · simp only [List.reverse_nil, List.nil_append, Node.depth_group]
      omega
  simpa using hgroup

end Complete

/-- When reading on gives a tree, the rest of the stream completes the open runs to it. -/
theorem completes_of_reads {limit : Nat} {state : State} {tokens : List Token} {reading : Reading}
    {tree : Tree} (hreads : state.Reads limit tokens reading) (h : reading.result = .ok tree)
    (hdepth : state.depth ≤ limit) :
    Completes limit state.nodes state.enclosing (tokens.drop state.index) tree.children := by
  induction hreads with
  | halt hhalt =>
    cases hhalt with
    | complete hdrop hclosed =>
      obtain rfl := Except.ok.inj h
      rw [hdrop, hclosed]
      exact ⟨[], .nil, Nat.zero_le _, (List.append_nil _).symm⟩
    | unclosed | noWhole | noDecimal | tooDeep | unmatched | noNode => cases h
  | step hstep _ ih =>
    cases hstep with
    | whole hdrop _ hvalue =>
      have hrest := ih h hdepth
      rw [State.add, drop_succ_of_drop hdrop] at hrest
      rw [hdrop]
      exact hrest.of_cons [_] (fun hback => .whole hvalue hback)
        (by simpa [State.depth, State.add] using hdepth)
    | decimal hdrop hvalue =>
      have hrest := ih h hdepth
      rw [State.add, drop_succ_of_drop (drop_succ_of_drop (drop_succ_of_drop hdrop))] at hrest
      rw [hdrop]
      exact hrest.of_cons [_, _, _] (fun hback => .decimal hvalue hback)
        (by simpa [State.depth, State.add] using hdepth)
    | operator hdrop hop =>
      have hrest := ih h hdepth
      rw [State.add, drop_succ_of_drop hdrop] at hrest
      rw [hdrop]
      exact hrest.of_cons [_] (fun hback => .operator hop hback)
        (by simpa [State.depth, State.add] using hdepth)
    | opening hdrop hlimit =>
      have hrest := ih h (Nat.lt_of_le_of_ne hdepth hlimit)
      rw [State.openGroup, drop_succ_of_drop hdrop] at hrest
      rw [hdrop]
      exact completes_open hrest
    | closing hdrop henclosing =>
      rw [State.depth, henclosing, List.length_cons] at hdepth
      have hrest := ih h (Nat.le_of_succ_le hdepth)
      rw [State.closeGroup, drop_succ_of_drop hdrop] at hrest
      rw [hdrop, henclosing]
      exact completes_close hrest hdepth

/-- The reader gives exactly the tree that the stream spells, if it is within the limit. -/
theorem ofTokens_eq_ok_iff {limit : Nat} {tokens : List Token} {tree : Tree} :
    ofTokens limit tokens = .ok tree ↔
      Spells (beforeEnd tokens) tree.children ∧ tree.depth ≤ limit := by
  constructor
  · intro h
    have hreads : State.start.Reads limit (beforeEnd tokens) (read limit tokens) :=
      reads_readFrom List.drop_zero
    obtain ⟨more, hspells, hdepth, hroot⟩ := completes_of_reads hreads h (Nat.zero_le _)
    obtain rfl : tree.children = more := hroot
    exact ⟨hspells, hdepth⟩
  · rintro ⟨hspells, hdepth⟩
    exact result_of_spells hspells hdepth

end Tree

end ArithExpr
