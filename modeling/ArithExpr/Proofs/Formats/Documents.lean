import ArithExpr.Proofs.Formats.Numbers
import ArithExpr.Document.Json
import ArithExpr.Document.Yaml
import ArithExpr.Tree.Document

/-!
# Documents of trees can be read back

In both notations a node is a value under a tag that names its form.  JSON ends every
collection with a bracket; in YAML a collection ends where the next line is indented
less.
-/

namespace ArithExpr

namespace Writing

section Tags

variable {node node' : Node} {text text' : List Char}

/-- The forms of nodes. -/
def forms : List String :=
  ["Literal", "MultiplicativeOp", "AdditiveOp", "Group"]

lemma form_mem_forms (node : Node) : node.form ∈ forms := by
  cases node with
  | literal => exact List.mem_cons_self
  | operator op => cases op <;> decide
  | group => exact List.mem_of_getLast? rfl

/-- A tag ends at a character that is in no tag, and tells the form of a node. -/
lemma form_append_inj (stops : List Char) (hstops : stops.all fun c => !c.isAlpha)
    (htext : ∀ c ∈ text.head?, c ∈ stops) (htext' : ∀ c ∈ text'.head?, c ∈ stops)
    (h : node.form.toList ++ text = node'.form.toList ++ text') :
    node.form = node'.form ∧ text = text' := by
  have hforms : forms.all fun form => form.toList.all Char.isAlpha := by decide
  have hletters (node : Node) : ∀ c ∈ node.form.toList, c ∉ stops := by
    intro c hc hstop
    have hletter := List.all_eq_true.mp (List.all_eq_true.mp hforms _ (form_mem_forms node)) c hc
    have hother := List.all_eq_true.mp hstops c hstop
    simp [hletter] at hother
  obtain ⟨hform, htext⟩ :=
    Text.append_inj_of_stop (hletters node) (hletters node') htext htext' h
  exact ⟨String.toList_injective hform, htext⟩

end Tags

/-! ### JSON -/

/-- A new line in JSON, indented for a depth. -/
def jsonLine (depth : Nat) : List Char :=
  '\n' :: List.replicate (2 * depth) ' '

/-- What a node has behind its tag in JSON: all of its value, or what stands in front of the nodes
of a group. -/
def jsonBody (depth : Nat) : Node → List Char
  | .literal value =>
    (Document.jsonNumbers.write value).toList ++ (jsonLine depth ++ ['\x7d'])
  | .operator op => '"' :: (op.symbol.toList ++ '"' :: (jsonLine depth ++ ['\x7d']))
  | .group _ => '\x7b' :: (jsonLine (depth + 2) ++ "\"children\": [".toList)

/-- The end of a sequence at a depth. -/
def jsonClose (depth : Nat) (isEmpty : Bool) : List Char :=
  (if isEmpty then [] else jsonLine depth) ++ [']']

/-- Nodes as in JSON. -/
def json : Writing Nat where
  separator := [',']
  head := fun depth _ node =>
    jsonLine depth ++ '\x7b' :: (jsonLine (depth + 1) ++
      '"' :: (node.form.toList ++ '"' :: ':' :: ' ' :: jsonBody depth node))
  inner := fun depth _ => depth + 3
  tail := fun depth isEmpty =>
    jsonClose (depth + 2) isEmpty ++
      (jsonLine (depth + 1) ++ '\x7d' :: (jsonLine depth ++ ['\x7d']))

/-- A run in JSON is followed by a bracket, on its line or on the next. -/
def JsonEnds (_ : Nat) (text : List Char) : Prop :=
  ∃ depth isEmpty rest, text = jsonClose depth isEmpty ++ rest

section Json

variable {node node' : Node} {text text' : List Char}

lemma toList_pushn (s : String) (c : Char) (count : Nat) :
    (s.pushn c count).toList = s.toList ++ List.replicate count c := by
  unfold String.pushn
  induction count with
  | zero => simp [Nat.repeat]
  | succ count ih => simp [Nat.repeat, ih, List.replicate_succ']

lemma toList_line_spread (depth : Nat) :
    (Document.JsonSpacing.spread.line depth).toList = jsonLine depth :=
  toList_pushn _ _ _

lemma toList_colon_spread : Document.JsonSpacing.spread.colon.toList = [':', ' '] := by
  decide

/-- A tag needs no escapes. -/
lemma toList_jsonText_form (node : Node) :
    (Document.jsonText node.form).toList = '"' :: (node.form.toList ++ ['"']) := by
  have hforms : ∀ form ∈ forms,
      (Document.jsonText form).toList = '"' :: (form.toList ++ ['"']) := by decide
  exact hforms _ (form_mem_forms node)

/-- The symbol of an operator needs no escapes. -/
lemma toList_jsonText_symbol (op : Operator) :
    (Document.jsonText op.symbol).toList = '"' :: (op.symbol.toList ++ ['"']) := by
  cases op <;> decide

/-- A run of documents is empty when the run of nodes is. -/
lemma isEmpty_documents (nodes : List Node) :
    (Node.documents nodes).isEmpty = nodes.isEmpty := by
  cases nodes <;> rfl

/-- The pieces of a node in JSON. -/
lemma jsonPieces_tagged (depth : Nat) (node : Node) (body : Document) :
    (Document.jsonPieces .spread depth (.tagged node.form body)).flatMap String.toList =
      '\x7b' :: (jsonLine (depth + 1) ++ '"' :: (node.form.toList ++ '"' :: ':' :: ' ' ::
        ((Document.jsonPieces .spread (depth + 1) body).flatMap String.toList ++
          (jsonLine depth ++ ['\x7d'])))) := by
  rw [Document.jsonPieces]
  simp only [List.flatMap_cons, List.flatMap_append, List.flatMap_nil, toList_line_spread,
    toList_jsonText_form, toList_colon_spread]
  simp

/-- A sequence of nodes in JSON, from its bracket on. -/
lemma jsonPieces_sequence (depth : Nat) (nodes : List Node) :
    (Document.jsonPieces .spread depth (.sequence (Node.documents nodes))).flatMap String.toList =
      '[' :: ((Document.jsonItems .spread (depth + 1) (Node.documents nodes)).flatMap
        String.toList ++ jsonClose depth nodes.isEmpty) := by
  cases nodes with
  | nil =>
    rw [Node.documents, Document.jsonPieces, Document.jsonItems]
    rfl
  | cons node rest =>
    rw [Node.documents, Document.jsonPieces]
    simp [toList_line_spread, jsonClose]

/-- The key of the nodes of a group with its value. -/
lemma jsonPieces_children (depth : Nat) (nodes : List Node) :
    (Document.jsonPieces .spread depth
      (.mapping [("children", .sequence (Node.documents nodes))])).flatMap String.toList =
      '\x7b' :: (jsonLine (depth + 1) ++ ("\"children\": [".toList ++
        ((Document.jsonItems .spread (depth + 2) (Node.documents nodes)).flatMap String.toList ++
          (jsonClose (depth + 1) nodes.isEmpty ++ (jsonLine depth ++ ['\x7d']))))) := by
  have hkey : (Document.jsonText "children").toList = "\"children\"".toList := by decide
  rw [Document.jsonPieces, Document.jsonEntries, Document.jsonEntries]
  simp [jsonPieces_sequence, toList_line_spread, toList_colon_spread, hkey]

/-- One node more in a sequence in JSON. -/
lemma run_json_cons {depth : Nat} {rest : List Node} (isLast : Bool)
    (hnode : json.node depth isLast node =
      jsonLine depth ++ (Document.jsonPieces .spread depth node.document).flatMap String.toList)
    (hrest : json.run depth rest =
      (Document.jsonItems .spread depth (Node.documents rest)).flatMap String.toList) :
    json.run depth (node :: rest) =
      (Document.jsonItems .spread depth (Node.documents (node :: rest))).flatMap String.toList := by
  have hplace : json.node depth rest.isEmpty node = json.node depth isLast node := by
    cases node <;> rfl
  rw [run, hplace, hnode, hrest, Node.documents, Document.jsonItems]
  simp only [List.flatMap_cons, List.flatMap_append, isEmpty_documents, toList_line_spread]
  cases rest <;> simp [json]

/-- The items of a sequence in JSON, node by node. -/
lemma run_json (depth : Nat) (nodes : List Node) :
    json.run depth nodes =
      (Document.jsonItems .spread depth (Node.documents nodes)).flatMap String.toList := by
  induction nodes using Node.run_induction generalizing depth with
  | nil => rw [run_nil, Node.documents, Document.jsonItems, List.flatMap_nil]
  | literal value rest ih =>
    refine run_json_cons true ?_ (ih depth)
    have hdocument : (Node.literal value).document =
        .tagged (Node.literal value).form (.double value) := by
      rw [Node.document]
      rfl
    rw [hdocument, jsonPieces_tagged, Document.jsonPieces, Writing.node]
    simp [json, jsonBody]
  | operator op rest ih =>
    refine run_json_cons true ?_ (ih depth)
    rw [Node.document, jsonPieces_tagged, Document.jsonPieces, Writing.node]
    simp [json, jsonBody, toList_jsonText_symbol]
  | group children rest ihinner ih =>
    refine run_json_cons true ?_ (ih depth)
    have hdocument : (Node.group children).document = .tagged (Node.group children).form
        (.mapping [("children", .sequence (Node.documents children))]) := by
      rw [Node.document]
      rfl
    have hinner : json.run (json.inner depth true) children = _ := ihinner (depth + 3)
    rw [hdocument, jsonPieces_tagged, jsonPieces_children, Writing.node, hinner]
    simp [json, jsonBody]

/-- A node, part by part. -/
lemma head_json (depth : Nat) (isLast : Bool) (node : Node) (text : List Char) :
    json.head depth isLast node ++ text =
      jsonLine depth ++ '\x7b' :: (jsonLine (depth + 1) ++ '"' :: (node.form.toList ++
        '"' :: ':' :: ' ' :: (jsonBody depth node ++ text))) := by
  simp [json]

/-- A bracket that ends a sequence does not look like the brace that begins a node. -/
lemma jsonClose_append_ne (depth depth' : Nat) (isEmpty : Bool) (text text' : List Char) :
    jsonClose depth isEmpty ++ text ≠ jsonLine depth' ++ '\x7b' :: text' := by
  intro h
  cases isEmpty with
  | true => cases h
  | false =>
    have hspaces {count : Nat} : ∀ c ∈ List.replicate count ' ', ¬ c ≠ ' ' := by
      intro c hc hne
      exact hne (List.eq_of_mem_replicate hc)
    have hline : List.replicate (2 * depth) ' ' ++ ']' :: text =
        List.replicate (2 * depth') ' ' ++ '\x7b' :: text' := by
      simpa [jsonClose, jsonLine] using h
    obtain ⟨-, hbracket⟩ :=
      Text.append_inj_of_stop hspaces hspaces (by simp) (by simp) hline
    exact absurd (List.cons.inj hbracket).1 (by decide)

/-- What nodes of one form have behind their tags. -/
lemma jsonBody_append_inj {depth : Nat} (hunsigned : node.IsUnsigned)
    (hunsigned' : node'.IsUnsigned) (hform : node.form = node'.form)
    (h : jsonBody depth node ++ text = jsonBody depth node' ++ text') :
    Node.Alike node node' ∧ text = text' := by
  have hends {text : List Char} : ∀ c ∈ (jsonLine depth ++ text).head?, c ∈ Layout.numberEnds := by
    rintro c hc
    obtain rfl := Option.some.inj hc
    decide
  obtain ⟨value, value', rfl, rfl⟩ | ⟨op, op', rfl, rfl⟩ | ⟨children, children', rfl, rfl⟩ :=
    Node.cases_of_form_eq hform
  · simp only [jsonBody, List.append_assoc] at h
    obtain ⟨rfl, htext⟩ := Layout.write_append_inj (by decide) (hunsigned _ rfl)
      (hunsigned' _ rfl) hends hends h
    exact ⟨.literal value, List.append_cancel_left (List.append_cancel_left htext)⟩
  · simp only [jsonBody, List.append_assoc, List.cons_append, List.cons.injEq, true_and] at h
    obtain ⟨rfl, htext⟩ := Operator.symbol_append_inj h
    exact ⟨.operator op, by simpa using htext⟩
  · exact ⟨.group _ _, List.append_cancel_left h⟩

lemma legible_json : json.Legible JsonEnds where
  ends_ne_head := by
    rintro place _ ⟨depth, isEmpty, rest, rfl⟩ isLast node text h
    rw [head_json] at h
    exact jsonClose_append_ne _ _ _ _ _ h
  ends_ne_separator := by
    rintro place _ ⟨depth, isEmpty, rest, rfl⟩ isLast node text h
    cases isEmpty <;> exact absurd (List.cons.inj h).1 (by decide)
  ends_inner := by
    intro depth text _ isLast isEmpty
    exact ⟨depth + 2, isEmpty, _, List.append_assoc _ _ _⟩
  head_inj := by
    intro depth isLast isLast' node node' text text' hunsigned hunsigned' _ _ h
    rw [head_json, head_json] at h
    have htags := (List.cons.inj (List.append_cancel_left
      (List.cons.inj (List.append_cancel_left h)).2)).2
    obtain ⟨hform, hrest⟩ :=
      form_append_inj ['"'] (by decide) (by simp) (by simp) htags
    simp only [List.cons.injEq, true_and] at hrest
    obtain ⟨halike, htext⟩ := jsonBody_append_inj hunsigned hunsigned' hform hrest
    exact ⟨halike, rfl, htext⟩

end Json

/-! ### YAML -/

/-- What stands behind a key whose value is a sequence, in front of the items. -/
def yamlOpen (isEmpty : Bool) : List Char :=
  if isEmpty then " []\n".toList else ['\n']

/-- The symbol of an operator as it has to be written in YAML: two of them need quotes. -/
def yamlSymbol : Operator → List Char
  | .multiply => "'*'".toList
  | .divide => ['/']
  | .plus => ['+']
  | .minus => "'-'".toList

/-- What a node has behind its tag in YAML. -/
def yamlBody (column : Nat) : Node → List Char
  | .literal value => ' ' :: ((Document.yamlNumbers.write value).toList ++ ['\n'])
  | .operator op => ' ' :: (yamlSymbol op ++ ['\n'])
  | .group children =>
    '\n' :: (Yaml.margin (column + 2) ++ ("children:".toList ++ yamlOpen children.isEmpty))

/-- Nodes as in YAML. -/
def yaml : Writing Nat where
  separator := []
  head := fun column _ node =>
    Yaml.margin column ++ ("- !".toList ++ (node.form.toList ++ yamlBody column node))
  inner := fun column _ => column + 2
  tail := fun _ _ => []

section Yaml

variable {node node' : Node} {text text' : List Char}

/-- The symbol of an operator as a scalar. -/
lemma toList_scalar_symbol (column : Nat) (op : Operator) :
    (Yaml.scalar column op.symbol).toList = yamlSymbol op ++ ['\n'] := by
  have hbreak : op.symbol.toList.contains '\n' = false := by
    cases op <;> decide
  have hplain : (!Yaml.hasImplicitMeaning op.symbol && Yaml.fitsPlain op.symbol.toList) =
      (op = .divide || op = .plus) := by
    cases op <;> decide +kernel
  have hquotes : Yaml.fitsSingleQuotes op.symbol.toList = true := by
    cases op <;> decide +kernel
  unfold Yaml.scalar
  simp only [hbreak, hplain, hquotes, String.toList_ofList]
  cases op <;> rfl

lemma run_yaml_cons {column : Nat} {rest : List Node} (isLast : Bool)
    (hnode : yaml.node column isLast node =
      Yaml.margin column ++ '-' :: (Document.yamlNode column .dash false node.document).flatMap
        String.toList)
    (hrest : yaml.run column rest =
      (Document.yamlItems column false (Node.documents rest)).flatMap String.toList) :
    yaml.run column (node :: rest) =
      (Document.yamlItems column false (Node.documents (node :: rest))).flatMap String.toList := by
  have hplace : yaml.node column rest.isEmpty node = yaml.node column isLast node := by
    cases node <;> rfl
  rw [run, hplace, hnode, hrest, Node.documents, Document.yamlItems]
  cases rest <;> simp [yaml, Document.yamlMargin]

/-- What stands behind the dash of a node in YAML. -/
lemma yamlNode_tagged (column : Nat) (tag : String) (body : Document) :
    (Document.yamlNode column .dash false (.tagged tag body)).flatMap String.toList =
      " !".toList ++ (tag.toList ++
        (Document.yamlNode column .dash true body).flatMap String.toList) := by
  rw [Document.yamlNode]
  simp

/-- The nodes of a group behind their key, which starts at a column. -/
lemma yamlNode_documents (column : Nat) (nodes : List Node) :
    (Document.yamlNode column .colon false (.sequence (Node.documents nodes))).flatMap
        String.toList =
      yamlOpen nodes.isEmpty ++
        (Document.yamlItems column false (Node.documents nodes)).flatMap String.toList := by
  cases nodes with
  | nil =>
    rw [Node.documents, Document.yamlNode, Document.yamlItems]
    simp [yamlOpen]
  | cons node rest =>
    rw [Node.documents, Document.yamlNode]
    simp [yamlOpen]

/-- The key of the nodes of a group with its value. -/
lemma yamlEntries_children (column : Nat) (nodes : List Node) :
    (Document.yamlEntries column false
      [("children", .sequence (Node.documents nodes))]).flatMap String.toList =
      Yaml.margin column ++ ("children:".toList ++ (yamlOpen nodes.isEmpty ++
        (Document.yamlItems column false (Node.documents nodes)).flatMap String.toList)) := by
  rw [Document.yamlEntries, Document.yamlEntries]
  simp [yamlNode_documents, Document.yamlMargin]

/-- The items of a sequence in YAML, node by node. -/
lemma run_yaml (column : Nat) (nodes : List Node) :
    yaml.run column nodes =
      (Document.yamlItems column false (Node.documents nodes)).flatMap String.toList := by
  induction nodes using Node.run_induction generalizing column with
  | nil => rw [run_nil, Node.documents, Document.yamlItems, List.flatMap_nil]
  | literal value rest ih =>
    refine run_yaml_cons true ?_ (ih column)
    rw [Node.document, yamlNode_tagged, Document.yamlNode, Writing.node]
    simp [yaml, yamlBody, Node.form]
  | operator op rest ih =>
    refine run_yaml_cons true ?_ (ih column)
    rw [Node.document, yamlNode_tagged, Document.yamlNode, Writing.node]
    simp [yaml, yamlBody, toList_scalar_symbol]
  | group children rest ihinner ih =>
    refine run_yaml_cons true ?_ (ih column)
    have hinner : yaml.run (yaml.inner column true) children = _ := ihinner (column + 2)
    rw [Node.document, yamlNode_tagged, Document.yamlNode, Writing.node, hinner]
    simp [yaml, yamlBody, yamlEntries_children, Node.form]

/-- A node, part by part. -/
lemma head_yaml (column : Nat) (isLast : Bool) (node : Node) (text : List Char) :
    yaml.head column isLast node ++ text =
      Yaml.margin column ++ ("- !".toList ++ (node.form.toList ++
        (yamlBody column node ++ text))) := by
  simp [yaml]

/-- What stands in front of items tells whether there are any. -/
lemma yamlOpen_append_inj {isEmpty isEmpty' : Bool}
    (h : yamlOpen isEmpty ++ text = yamlOpen isEmpty' ++ text') : text = text' := by
  cases isEmpty <;> cases isEmpty'
  · exact List.append_cancel_left h
  · exact absurd (List.cons.inj h).1 (by decide)
  · exact absurd (List.cons.inj h).1 (by decide)
  · exact List.append_cancel_left h

/-- Symbols that are followed by a line feed. -/
lemma yamlSymbol_append_inj {op op' : Operator}
    (h : yamlSymbol op ++ '\n' :: text = yamlSymbol op' ++ '\n' :: text') :
    op = op' ∧ text = text' := by
  have hbreak (op : Operator) : ∀ c ∈ yamlSymbol op, ¬ c = '\n' := by
    rintro c hc rfl
    revert hc
    cases op <;> decide
  obtain ⟨hsymbol, htext⟩ :=
    Text.append_inj_of_stop (hbreak op) (hbreak op') (by simp) (by simp) h
  refine ⟨?_, (List.cons.inj htext).2⟩
  revert hsymbol
  cases op <;> cases op' <;> decide

/-- What nodes of one form have behind their tags. -/
lemma yamlBody_append_inj {column : Nat} (hunsigned : node.IsUnsigned)
    (hunsigned' : node'.IsUnsigned) (hform : node.form = node'.form)
    (h : yamlBody column node ++ text = yamlBody column node' ++ text') :
    Node.Alike node node' ∧ text = text' := by
  obtain ⟨value, value', rfl, rfl⟩ | ⟨op, op', rfl, rfl⟩ | ⟨children, children', rfl, rfl⟩ :=
    Node.cases_of_form_eq hform
  · simp only [yamlBody, List.append_assoc, List.cons_append, List.cons.injEq, true_and] at h
    obtain ⟨rfl, htext⟩ := Layout.write_append_inj (by decide) (hunsigned _ rfl)
      (hunsigned' _ rfl) (by simp [Layout.numberEnds]) (by simp [Layout.numberEnds]) h
    exact ⟨.literal value, by simpa using htext⟩
  · simp only [yamlBody, List.append_assoc, List.cons_append, List.cons.injEq, true_and] at h
    obtain ⟨rfl, htext⟩ := yamlSymbol_append_inj h
    exact ⟨.operator op, htext⟩
  · simp only [yamlBody, List.append_assoc, List.cons_append, List.cons.injEq, true_and] at h
    exact ⟨.group _ _,
      yamlOpen_append_inj (List.append_cancel_left (List.append_cancel_left h))⟩

lemma margined_yaml : yaml.Margined Yaml.margin fun _ => [' ', ' '] where
  separator_eq := rfl
  tail_eq := fun _ _ => rfl
  margin_inner := fun column _ => List.replicate_add column 2 ' '
  exists_mark := by
    intro column isLast node text
    refine ⟨_, head_yaml column isLast node text, by simp, fun _ => ?_⟩
    rintro ⟨behind, h⟩
    exact absurd (List.cons.inj h).1 (by decide)
  head_inj := by
    intro column isLast isLast' node node' text text' hunsigned hunsigned' h
    rw [head_yaml, head_yaml] at h
    have htags := List.append_cancel_left (List.append_cancel_left h)
    have hstops {node : Node} {text : List Char} :
        ∀ c ∈ (yamlBody column node ++ text).head?, c ∈ [' ', '\n'] := by
      rintro c hc
      cases node <;> obtain rfl := Option.some.inj hc <;> decide
    obtain ⟨hform, hrest⟩ := form_append_inj [' ', '\n'] (by decide) hstops hstops htags
    obtain ⟨halike, htext⟩ := yamlBody_append_inj hunsigned hunsigned' hform hrest
    exact ⟨halike, rfl, htext⟩

end Yaml

end Writing

namespace Tree

open Writing

variable {tree tree' : Tree}

lemma toList_prettyJson (tree : Tree) :
    tree.document.prettyJson.toList =
      '\x7b' :: (jsonLine 1 ++ ("\"children\": [".toList ++ (json.run 2 tree.children ++
        (jsonClose 1 tree.children.isEmpty ++ (jsonLine 0 ++ ['\x7d']))))) := by
  rw [Document.prettyJson, String.toList_join, document, jsonPieces_children, run_json]

/-- Trees without signs that are the same in JSON are the same. -/
theorem eq_of_prettyJson_eq (hunsigned : Node.AllUnsigned tree.children)
    (hunsigned' : Node.AllUnsigned tree'.children)
    (h : tree.document.prettyJson = tree'.document.prettyJson) : tree = tree' := by
  have hlists := congrArg String.toList h
  rw [toList_prettyJson, toList_prettyJson] at hlists
  have hrun := List.append_cancel_left (List.append_cancel_left (List.cons.inj hlists).2)
  exact legible_json.tree_inj hunsigned hunsigned' ⟨1, _, _, rfl⟩ ⟨1, _, _, rfl⟩ hrun

lemma toList_yaml (tree : Tree) :
    tree.document.yaml.toList =
      "children:".toList ++ (yamlOpen tree.children.isEmpty ++ yaml.run 0 tree.children) := by
  rw [document, Document.yaml, String.toList_join, yamlEntries_children, run_yaml]
  rfl

/-- Trees without signs that are the same in YAML are the same. -/
theorem eq_of_yaml_eq (hunsigned : Node.AllUnsigned tree.children)
    (hunsigned' : Node.AllUnsigned tree'.children)
    (h : tree.document.yaml = tree'.document.yaml) : tree = tree' := by
  have hlists := congrArg String.toList h
  rw [toList_yaml, toList_yaml] at hlists
  have hrun := yamlOpen_append_inj (List.append_cancel_left hlists)
  exact margined_yaml.legible.tree_inj_of_ends_nil hunsigned hunsigned' 0 (Or.inl rfl) hrun

end Tree

end ArithExpr
