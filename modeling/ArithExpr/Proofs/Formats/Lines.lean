import ArithExpr.Proofs.Formats.Numbers

/-!
# Texts and drawings of trees can be read back

The text of a tree has parentheses around groups and spaces between nodes; a drawing
has a line for each node, with a margin that shows which groups are around it.
-/

namespace ArithExpr

namespace Writing

/-! ### Texts -/

/-- Nodes as in the text of a tree. -/
def plain : Writing Unit where
  separator := [' ']
  head := fun _ _ node =>
    match node with
    | .literal value => (Layout.plain.write value).toList
    | .operator op => op.symbol.toList
    | .group _ => ['(']
  inner := fun _ _ => ()
  tail := fun _ _ => [')']

/-- A run in a text is followed by a parenthesis, or by nothing. -/
def PlainEnds (_ : Unit) (text : List Char) : Prop :=
  ∀ c ∈ text.head?, c = ')'

section Plain

variable {node : Node} {rest : List Node} {text : List Char}

/-- One node more in a text. -/
lemma run_plain_cons (isLast : Bool)
    (hnode : plain.node () isLast node = node.text.toList)
    (hrest : plain.run () rest = (" ".intercalate (Node.texts rest)).toList) :
    plain.run () (node :: rest) = (" ".intercalate (Node.texts (node :: rest))).toList := by
  have hplace : plain.node () rest.isEmpty node = node.text.toList := by
    rw [← hnode]
    cases node <;> rfl
  rw [run, hplace, hrest]
  cases rest with
  | nil => simp [Node.texts]
  | cons next rest => simp [Node.texts, plain]

/-- A text, node by node. -/
lemma run_plain (nodes : List Node) :
    plain.run () nodes = (" ".intercalate (Node.texts nodes)).toList := by
  induction nodes using Node.run_induction with
  | nil => simp [run_nil, Node.texts]
  | literal value rest ih | operator op rest ih =>
    refine run_plain_cons true ?_ ih
    rw [Writing.node, Node.text]
    rfl
  | group children rest ihinner ih =>
    refine run_plain_cons true ?_ ih
    have hinner : plain.run (plain.inner () true) children = _ := ihinner
    rw [Writing.node, hinner, Node.text]
    simp [plain]

/-- The form of the node that a text begins with. -/
def formOfStart (c : Char) : String :=
  if c = '(' then "Group"
  else if c = '*' || c = '/' then "MultiplicativeOp"
  else if c = '+' || c = '-' then "AdditiveOp"
  else "Literal"

/-- A magnitude in a text begins with a digit. -/
lemma exists_digit_write (code : Fin Double.finiteCodes) :
    ∃ c behind, (Layout.plain.write (.finite false code)).toList = c :: behind ∧
      c.isDigit = true := by
  rw [Layout.toList_write]
  exact Layout.exists_digit_setDecimal _ _

/-- A number in a text does not begin with a parenthesis. -/
lemma exists_write_cons (value : Double) :
    ∃ c behind, (Layout.plain.write value).toList = c :: behind ∧ c ≠ ')' := by
  cases value with
  | finite negative code =>
    cases negative with
    | true => exact ⟨'-', _, String.toList_ofList, by decide⟩
    | false =>
      obtain ⟨c, behind, hcons, hdigit⟩ := exists_digit_write code
      refine ⟨c, behind, hcons, ?_⟩
      rintro rfl
      exact absurd hdigit (by decide)
  | infinite negative => cases negative <;> exact ⟨_, _, rfl, by decide⟩
  | nan => exact ⟨_, _, rfl, by decide⟩

/-- A node in a text does not begin with a `)`. -/
lemma exists_head_plain (isLast : Bool) (node : Node) :
    ∃ c behind, plain.head () isLast node = c :: behind ∧ c ≠ ')' := by
  cases node with
  | literal value => exact exists_write_cons value
  | operator op => cases op <;> exact ⟨_, [], rfl, by decide⟩
  | group children => exact ⟨'(', [], rfl, by decide⟩

/-- The first character of a node tells its form. -/
lemma form_eq_of_head_plain (isLast : Bool) (hunsigned : node.IsUnsigned) :
    ∃ c behind, plain.head () isLast node = c :: behind ∧ formOfStart c = node.form := by
  cases node with
  | literal value =>
    obtain ⟨code, rfl⟩ | rfl := hunsigned value rfl
    · obtain ⟨c, behind, hcons, hdigit⟩ := exists_digit_write code
      have hother : ['(', '*', '/', '+', '-'].all fun c => !c.isDigit := by decide
      have hnone : c ∉ ['(', '*', '/', '+', '-'] := fun h => by
        have hnot := List.all_eq_true.mp hother c h
        simp [hdigit] at hnot
      refine ⟨c, behind, hcons, ?_⟩
      simp only [List.mem_cons, List.not_mem_nil, or_false, not_or] at hnone
      simp [formOfStart, Node.form, hnone]
    · exact ⟨'i', _, rfl, by decide⟩
  | operator op => cases op <;> exact ⟨_, [], rfl, by decide⟩
  | group children => exact ⟨'(', [], rfl, rfl⟩

/-- Behind a number in a text stands a space, a parenthesis or nothing. -/
lemma head?_of_follows_plain (h : plain.Follows PlainEnds () text) :
    ∀ c ∈ text.head?, c ∈ Layout.numberEnds := by
  intro c hc
  obtain hends | ⟨isLast, node, rest, rfl⟩ := h
  · rw [hends c hc]
    decide
  · obtain rfl := Option.some.inj hc
    decide

lemma legible_plain : plain.Legible PlainEnds where
  ends_ne_head := by
    rintro _ _ hends isLast node rest rfl
    obtain ⟨c, behind, hhead, hne⟩ := exists_head_plain isLast node
    exact hne (hends c (by rw [hhead]; rfl))
  ends_ne_separator := by
    rintro _ _ hends isLast node rest rfl
    exact absurd (hends ' ' rfl) (by decide)
  ends_inner := by
    rintro _ text - isLast isEmpty c hc
    exact (Option.some.inj hc).symm
  head_inj := by
    intro _ isLast isLast' node node' text text' hunsigned hunsigned' hfollows hfollows' h
    have hform : node.form = node'.form := by
      obtain ⟨c, behind, hhead, hform⟩ := form_eq_of_head_plain isLast hunsigned
      obtain ⟨c', behind', hhead', hform'⟩ := form_eq_of_head_plain isLast' hunsigned'
      rw [hhead, hhead'] at h
      rw [← hform, ← hform', (List.cons.inj h).1]
    obtain ⟨value, value', rfl, rfl⟩ | ⟨op, op', rfl, rfl⟩ | ⟨children, children', rfl, rfl⟩ :=
      Node.cases_of_form_eq hform
    · obtain ⟨rfl, htext⟩ := Layout.write_append_inj (by decide) (hunsigned _ rfl)
        (hunsigned' _ rfl) (head?_of_follows_plain (hfollows rfl))
        (head?_of_follows_plain (hfollows' rfl)) h
      exact ⟨.literal value, rfl, htext⟩
    · obtain ⟨rfl, htext⟩ := Operator.symbol_append_inj h
      exact ⟨.operator op, rfl, htext⟩
    · exact ⟨.group _ _, rfl, (List.cons.inj h).2⟩

end Plain

/-! ### Drawings -/

/-- Nodes as the lines of a drawing. -/
def drawn : Writing String where
  separator := []
  head := fun margin isLast node => (Node.line margin isLast node).toList ++ ['\n']
  inner := fun margin isLast => margin ++ Node.marginBelow isLast
  tail := fun _ _ => []

section Drawn

variable {node node' : Node} {text text' : List Char}

/-- A line, part by part. -/
lemma head_drawn (margin : String) (isLast : Bool) (node : Node) (text : List Char) :
    drawn.head margin isLast node ++ text =
      margin.toList ++ ((Node.connector isLast).toList ++ (' ' :: (node.icon.toList ++
        (' ' :: (node.label.toList ++ '\n' :: text))))) := by
  simp [drawn, Node.line]

/-- The lines of a drawing, node by node. -/
lemma run_drawn (margin : String) (nodes : List Node) :
    drawn.run margin nodes =
      (Node.linesOfAll margin nodes).flatMap fun line => line.toList ++ ['\n'] := by
  induction nodes using Node.run_induction generalizing margin with
  | nil => rw [run_nil, Node.linesOfAll, List.flatMap_nil]
  | literal value rest ih | operator op rest ih =>
    rw [run_cons, behind, after, ih, Node.linesOfAll, Node.lines]
    · simp [drawn]
    · intro children hgroup
      cases hgroup
  | group children rest ihinner ih =>
    rw [run_cons, behind, after, ihinner, ih, Node.linesOfAll, Node.lines]
    simp [drawn]

/-- A connector tells whether a node is the last. -/
lemma connector_append_inj {isLast isLast' : Bool}
    (h : (Node.connector isLast).toList ++ text = (Node.connector isLast').toList ++ text') :
    isLast = isLast' ∧ text = text' := by
  have hlength (isLast : Bool) : (Node.connector isLast).toList.length = 2 := by
    cases isLast <;> decide
  obtain ⟨hconnector, htext⟩ := List.append_inj h ((hlength isLast).trans (hlength isLast').symm)
  refine ⟨?_, htext⟩
  revert hconnector
  cases isLast <;> cases isLast' <;> decide

/-- The form of the node that an icon stands for. -/
def formOfIcon (icon : List Char) : String :=
  if icon = ['#'] then "Literal"
  else if icon = ['⊏'] then "Group"
  else if icon = ['×'] then "MultiplicativeOp"
  else "AdditiveOp"

lemma formOfIcon_icon (node : Node) : formOfIcon node.icon.toList = node.form := by
  cases node with
  | literal => exact show formOfIcon "#".toList = "Literal" by decide
  | operator op => cases op <;> decide
  | group => exact show formOfIcon "⊏".toList = "Group" by decide

/-- An icon tells the form of a node. -/
lemma icon_append_inj (h : node.icon.toList ++ text = node'.icon.toList ++ text') :
    node.form = node'.form ∧ text = text' := by
  have hlength (node : Node) : node.icon.toList.length = 1 := by
    cases node with
    | literal => exact show "#".toList.length = 1 by decide
    | operator op => cases op <;> decide
    | group => exact show "⊏".toList.length = 1 by decide
  obtain ⟨hicon, htext⟩ := List.append_inj h ((hlength node).trans (hlength node').symm)
  refine ⟨?_, htext⟩
  rw [← formOfIcon_icon, hicon, formOfIcon_icon]

/-- No line is broken by the number of nodes in it. -/
lemma ne_of_mem_countLabel {c : Char} {count : Nat} (h : c ∈ (Node.countLabel count).toList) :
    ¬ c = '\n' := by
  rintro rfl
  unfold Node.countLabel at h
  split at h
  · exact absurd h (by decide)
  · rw [String.toList_append, List.mem_append] at h
    rcases h with h | h
    · have hdigits : (toString count).toList = Nat.toDigits 10 count := String.toList_ofList
      rw [hdigits] at h
      obtain ⟨-, hrun⟩ := Text.isDigitRun_toDigits count
      exact absurd (hrun _ h) (by decide)
    · exact absurd h (by decide)

/-- Labels of nodes of one form, each ended by a line feed. -/
lemma label_append_inj (hunsigned : node.IsUnsigned) (hunsigned' : node'.IsUnsigned)
    (hform : node.form = node'.form)
    (h : node.label.toList ++ '\n' :: text = node'.label.toList ++ '\n' :: text') :
    Node.Alike node node' ∧ text = text' := by
  have hends {text : List Char} : ∀ c ∈ ('\n' :: text).head?, c ∈ Layout.numberEnds := by
    rintro c hc
    obtain rfl := Option.some.inj hc
    decide
  obtain ⟨value, value', rfl, rfl⟩ | ⟨op, op', rfl, rfl⟩ | ⟨children, children', rfl, rfl⟩ :=
    Node.cases_of_form_eq hform
  · obtain ⟨rfl, htext⟩ :=
      Layout.write_append_inj (by decide) (hunsigned _ rfl) (hunsigned' _ rfl) hends hends h
    exact ⟨.literal value, (List.cons.inj htext).2⟩
  · obtain ⟨rfl, htext⟩ := Operator.symbol_append_inj h
    exact ⟨.operator op, (List.cons.inj htext).2⟩
  · obtain ⟨-, htext⟩ := Text.append_inj_of_stop (fun _ => ne_of_mem_countLabel)
      (fun _ => ne_of_mem_countLabel) (by simp) (by simp) h
    exact ⟨.group _ _, (List.cons.inj htext).2⟩

/-- No margin goes on where a connector stands. -/
lemma connector_breaks_margin (isLast isLast' : Bool) (text : List Char) :
    ¬ (Node.marginBelow isLast).toList <+: (Node.connector isLast').toList ++ text := by
  rintro ⟨rest, h⟩
  have hlength : (Node.marginBelow isLast).toList.length =
      (Node.connector isLast').toList.length := by
    cases isLast <;> cases isLast' <;> decide
  obtain ⟨hsame, -⟩ := List.append_inj h hlength
  revert hsame
  cases isLast <;> cases isLast' <;> decide

lemma margined_drawn :
    drawn.Margined String.toList fun isLast => (Node.marginBelow isLast).toList where
  separator_eq := rfl
  tail_eq := fun _ _ => rfl
  margin_inner := fun _ _ => String.toList_append
  exists_mark := by
    intro margin isLast node text
    exact ⟨_, head_drawn margin isLast node text, by simp,
      fun isLast' => connector_breaks_margin isLast' isLast _⟩
  head_inj := by
    intro margin isLast isLast' node node' text text' hunsigned hunsigned' h
    rw [head_drawn, head_drawn] at h
    obtain ⟨rfl, hicon⟩ := connector_append_inj (List.append_cancel_left h)
    obtain ⟨hform, hlabel⟩ := icon_append_inj (List.cons.inj hicon).2
    obtain ⟨halike, htext⟩ := label_append_inj hunsigned hunsigned' hform (List.cons.inj hlabel).2
    exact ⟨halike, rfl, htext⟩

end Drawn

end Writing

namespace Tree

variable {tree tree' : Tree}

/-- Trees without signs that have the same text are the same. -/
theorem eq_of_text_eq (hunsigned : Node.AllUnsigned tree.children)
    (hunsigned' : Node.AllUnsigned tree'.children) (h : tree.text = tree'.text) : tree = tree' := by
  have hlists := congrArg String.toList h
  rw [text, text, ← Writing.run_plain, ← Writing.run_plain] at hlists
  exact Writing.legible_plain.tree_inj_of_ends_nil hunsigned hunsigned' () nofun hlists

lemma toList_drawing (tree : Tree) :
    tree.drawing.toList = "⧉ expression\n".toList ++ Writing.drawn.run "" tree.children := by
  rw [drawing, String.toList_join, Writing.run_drawn, List.map_cons, List.flatMap_cons,
    List.flatMap_map]
  simp

/-- Trees without signs that have the same drawing are the same. -/
theorem eq_of_drawing_eq (hunsigned : Node.AllUnsigned tree.children)
    (hunsigned' : Node.AllUnsigned tree'.children) (h : tree.drawing = tree'.drawing) :
    tree = tree' := by
  have hlists := congrArg String.toList h
  rw [toList_drawing, toList_drawing] at hlists
  have hrun := List.append_cancel_left hlists
  have hlegible := Writing.margined_drawn.legible
  exact hlegible.tree_inj_of_ends_nil hunsigned hunsigned' "" (Or.inl rfl) hrun

end Tree

end ArithExpr
