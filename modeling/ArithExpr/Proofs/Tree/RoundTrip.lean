import ArithExpr.Proofs.Number.ReadBack
import ArithExpr.Proofs.Token.Concatenation
import ArithExpr.Proofs.Tree.Traversal
import ArithExpr.Tree.Text

/-!
# Trees and their texts

The text of a tree is an expression, and scanning and reading it gives the tree back
under one condition on its literals: they are finite and have no sign.  The main
statement, `ofTokens_scan_text_iff`, says that this condition and the nesting limit are
all there is to it.  The limit is the one the reader is given, which settings have held
to the ceiling.

A negative literal is read as an operator and a literal.  `Node.signsApart` is a run with
every sign taken apart in this way, and the text of any tree of finite literals spells
that run (`spells_texts`), which has more nodes than the tree as soon as one literal is
negative.  The words for infinity and NaN are made of letters, which no stream that
spells anything contains.
-/

namespace ArithExpr

/-! ### Values of literals -/

namespace Double

/-- A value that is neither infinite nor NaN. -/
def IsFinite (value : Double) : Prop :=
  ∃ negative code, value = .finite negative code

/-- A finite value with no sign. -/
def IsMagnitude (value : Double) : Prop :=
  ∃ code, value = .finite false code

/-- Whether a value is finite and has a sign. -/
def hasSign : Double → Bool
  | .finite negative _ => negative
  | _ => false

/-- A magnitude is finite. -/
lemma IsMagnitude.isFinite {value : Double} (h : value.IsMagnitude) : value.IsFinite := by
  obtain ⟨code, rfl⟩ := h
  exact ⟨false, code, rfl⟩

/-- A finite value without a sign is a magnitude. -/
lemma IsFinite.isMagnitude {value : Double} (h : value.IsFinite) (hsign : value.hasSign = false) :
    value.IsMagnitude := by
  obtain ⟨negative, code, rfl⟩ := h
  obtain rfl : negative = false := hsign
  exact ⟨code, rfl⟩

/-- Only a negative value has a sign. -/
lemma eq_of_hasSign {value : Double} (h : value.hasSign = true) :
    ∃ code, value = .finite true code := by
  cases value with
  | finite negative code =>
    obtain rfl : negative = true := h
    exact ⟨code, rfl⟩
  | infinite | nan => cases h

/-- A finite value equals itself. -/
lemma IsFinite.numericallyEqual_self {value : Double} (h : value.IsFinite) :
    value.numericallyEqual value = true := by
  obtain ⟨negative, code, rfl⟩ := h
  simp [numericallyEqual]

end Double

namespace Node

/-! ### Signs apart -/

/-- A run with an operator and a literal in the place of each negative literal. -/
def signsApart : List Node → List Node
  | [] => []
  | .literal (.finite true code) :: rest =>
    .operator .minus :: .literal (.finite false code) :: signsApart rest
  | .group children :: rest => .group (signsApart children) :: signsApart rest
  | node :: rest => node :: signsApart rest

section SignsApart

variable {nodes nodes' : List Node}

/-- A literal without a sign stays. -/
lemma signsApart_cons_of_not_hasSign {value : Double} (h : value.hasSign = false)
    (rest : List Node) :
    signsApart (.literal value :: rest) = .literal value :: signsApart rest := by
  rw [signsApart]
  · rintro code ⟨⟩
    cases h
  · exact nofun

/-- Without signs there is nothing to take apart. -/
lemma signsApart_eq_self (h : ∀ value ∈ valuesOfAll nodes, value.IsMagnitude) :
    signsApart nodes = nodes := by
  induction nodes using run_induction with
  | nil => rw [signsApart]
  | literal value rest ih =>
    simp only [valuesOfAll, values, List.cons_append, List.nil_append, List.forall_mem_cons] at h
    obtain ⟨⟨code, rfl⟩, hrest⟩ := h
    simp [signsApart, ih hrest]
  | operator op rest ih =>
    simp only [valuesOfAll, values, List.nil_append] at h
    simp [signsApart, ih h]
  | group children rest ihinner ih =>
    simp only [valuesOfAll, values, List.forall_mem_append] at h
    simp [signsApart, ihinner h.1, ih h.2]

/-- Every sign that is taken apart is one more node. -/
lemma sizeOfAll_signsApart (nodes : List Node) :
    sizeOfAll (signsApart nodes) =
      sizeOfAll nodes + (valuesOfAll nodes).countP Double.hasSign := by
  induction nodes using run_induction with
  | nil => simp [signsApart, valuesOfAll]
  | literal value rest ih =>
    rw [valuesOfAll, values, List.singleton_append, List.countP_cons]
    cases hsign : value.hasSign with
    | true =>
      obtain ⟨code, rfl⟩ := Double.eq_of_hasSign hsign
      simp only [signsApart, sizeOfAll, size, ih, if_true]
      omega
    | false =>
      rw [signsApart_cons_of_not_hasSign hsign]
      simp only [sizeOfAll, ih, Bool.false_eq_true, if_false]
      omega
  | operator op rest ih =>
    rw [valuesOfAll, values, List.nil_append]
    simp only [signsApart, sizeOfAll, ih]
    omega
  | group children rest ihinner ih =>
    rw [valuesOfAll, values, List.countP_append]
    simp only [signsApart, sizeOfAll, size, ihinner, ih]
    omega

/-- Equal runs have the same number of nodes. -/
lemma sizeOfAll_eq_of_allNumericallyEqual (h : allNumericallyEqual nodes nodes' = true) :
    sizeOfAll nodes = sizeOfAll nodes' := by
  induction nodes using run_induction generalizing nodes' with
  | nil => cases nodes' <;> simp_all [allNumericallyEqual]
  | literal value rest ih | operator op rest ih =>
    match nodes' with
    | [] => simp [allNumericallyEqual] at h
    | node' :: rest' =>
      rw [allNumericallyEqual, Bool.and_eq_true] at h
      rw [sizeOfAll, sizeOfAll, ih h.2]
      cases node' <;> simp_all [numericallyEqual, size]
  | group children rest ihinner ih =>
    match nodes' with
    | [] => simp [allNumericallyEqual] at h
    | node' :: rest' =>
      rw [allNumericallyEqual, Bool.and_eq_true] at h
      rw [sizeOfAll, sizeOfAll, ih h.2]
      cases node' with
      | literal | operator => simp [numericallyEqual] at h
      | group children' =>
        rw [numericallyEqual] at h
        rw [size, size, ihinner h.1]

/-- A run of finite literals equals itself. -/
lemma allNumericallyEqual_self (h : ∀ value ∈ valuesOfAll nodes, value.IsFinite) :
    allNumericallyEqual nodes nodes = true := by
  induction nodes using run_induction with
  | nil => rfl
  | literal value rest ih =>
    simp only [valuesOfAll, values, List.cons_append, List.nil_append, List.forall_mem_cons] at h
    simp [allNumericallyEqual, numericallyEqual, h.1.numericallyEqual_self, ih h.2]
  | operator op rest ih =>
    simp only [valuesOfAll, values, List.nil_append] at h
    simp [allNumericallyEqual, numericallyEqual, ih h]
  | group children rest ihinner ih =>
    simp only [valuesOfAll, values, List.forall_mem_append] at h
    simp [allNumericallyEqual, numericallyEqual, ihinner h.1, ih h.2]

end SignsApart

end Node

namespace Tree

open Token

/-! ### What the text of a tree spells -/

/-- Streams side by side spell the runs side by side. -/
lemma Spells.append {front back : List Token} {nodes nodes' : List Node}
    (h : Spells front nodes) (h' : Spells back nodes') :
    Spells (front ++ back) (nodes ++ nodes') := by
  induction h with
  | nil => exact h'
  | whole hvalue _ ih => exact .whole hvalue ih
  | decimal hvalue _ ih => exact .decimal hvalue ih
  | operator hop _ ih => exact .operator hop ih
  | @group opening closing within tokens children nodes hinner _ _ ih =>
    have hgroup : Spells (⟨.leftParen, opening⟩ :: (within ++ ⟨.rightParen, closing⟩ ::
        (tokens ++ back))) (.group children :: (nodes ++ nodes')) := .group hinner ih
    simpa using hgroup

/-- A spelled stream holds no foreign character. -/
lemma Spells.noForeign {tokens : List Token} {nodes : List Node} (h : Spells tokens nodes) :
    NoForeign tokens := by
  induction h with
  | nil => exact List.forall_mem_nil _
  | whole _ _ ih => exact List.forall_mem_cons.mpr ⟨rfl, ih⟩
  | decimal _ _ ih => simpa [NoForeign, Kind.isLexicalError] using ih
  | @operator token op tokens nodes hop _ ih =>
    refine List.forall_mem_cons.mpr ⟨?_, ih⟩
    rw [operatorOf?_eq_some_iff.mp hop]
    cases op <;> rfl
  | group _ _ ihinner ih =>
    refine List.forall_mem_cons.mpr ⟨rfl, List.forall_mem_append.mpr ⟨ihinner, ?_⟩⟩
    exact List.forall_mem_cons.mpr ⟨rfl, ih⟩

/-- A text in positional notation spells one literal. -/
lemma spells_of_positional {text : String} {d : Decimal}
    (h : Numeral.Positional text.toList d) :
    Spells (scan text) [.literal (d.toDouble false)] := by
  have hvalue := h.double?_eq
  generalize hchars : text.toList = chars at h hvalue
  obtain rfl : String.ofList chars = text := by rw [← hchars, String.ofList_toList]
  cases h with
  | whole hdigits =>
    rw [scan_digits hdigits]
    refine .whole ?_ .nil
    rw [String.toList_ofList, hvalue]
  | decimal hwhole hfraction =>
    rw [scan_decimal hwhole hfraction]
    refine .decimal ?_ .nil
    rw [String.toList_ofList, String.toList_ofList, hvalue]

/-- The text of a magnitude spells it. -/
lemma spells_write (code : Fin Double.finiteCodes) :
    Spells (scan (Layout.plain.write (.finite false code))) [.literal (.finite false code)] := by
  obtain ⟨d, hpositional, hvalue⟩ := Layout.exists_positional_write code
  have hspells := spells_of_positional hpositional
  rwa [hvalue] at hspells

/-- The text of a finite value spells an operator and a magnitude if it is negative, and else the
value itself. -/
lemma spells_write_of_isFinite {value : Double} (h : value.IsFinite) :
    Spells (scan (Layout.plain.write value)) (Node.signsApart [.literal value]) := by
  obtain ⟨negative, code, rfl⟩ := h
  have hspells := spells_write code
  cases negative with
  | false => simpa [Node.signsApart] using hspells
  | true =>
    have htext : Layout.plain.write (.finite true code) =
        "-" ++ Layout.plain.write (.finite false code) := by
      simp [Layout.write, String.ofList_cons]
    rw [htext, scan_minus_append]
    simpa [Node.signsApart] using Spells.operator rfl hspells

/-- The symbol of an operator is scanned as its own kind. -/
lemma scan_symbol (op : Operator) : scan op.symbol = [⟨op.kind, op.symbol⟩] := by
  cases op <;> rfl

/-- A literal in front of a run is taken apart alone. -/
lemma signsApart_literal_cons (value : Double) (rest : List Node) :
    Node.signsApart (.literal value :: rest) =
      Node.signsApart [.literal value] ++ Node.signsApart rest := by
  cases hsign : value.hasSign with
  | true =>
    obtain ⟨code, rfl⟩ := Double.eq_of_hasSign hsign
    simp [Node.signsApart]
  | false =>
    rw [Node.signsApart_cons_of_not_hasSign hsign, Node.signsApart_cons_of_not_hasSign hsign,
      Node.signsApart]
    rfl

/-- The texts of a run of finite literals, operators and groups of these spell the run with its
signs apart. -/
theorem spells_texts {nodes : List Node} (h : ∀ value ∈ Node.valuesOfAll nodes, value.IsFinite) :
    Spells ((Node.texts nodes).flatMap scan) (Node.signsApart nodes) := by
  induction nodes using Node.run_induction with
  | nil =>
    rw [Node.signsApart]
    exact .nil
  | literal value rest ih =>
    simp only [Node.valuesOfAll, Node.values, List.cons_append, List.nil_append,
      List.forall_mem_cons] at h
    obtain ⟨hvalue, hrest⟩ := h
    rw [Node.texts, Node.text, List.flatMap_cons, signsApart_literal_cons]
    exact (spells_write_of_isFinite hvalue).append (ih hrest)
  | operator op rest ih =>
    simp only [Node.valuesOfAll, Node.values, List.nil_append] at h
    have hspells : Spells (⟨op.kind, op.symbol⟩ :: (Node.texts rest).flatMap scan)
        (.operator op :: Node.signsApart rest) :=
      .operator (operatorOf?_eq_some_iff.mpr rfl) (ih h)
    simpa [Node.texts, Node.text, scan_symbol, Node.signsApart] using hspells
  | group children rest ihinner ih =>
    simp only [Node.valuesOfAll, Node.values, List.forall_mem_append] at h
    obtain ⟨hchildren, hrest⟩ := h
    rw [Node.texts, Node.text, List.flatMap_cons, scan_parenthesized, scan_intercalate,
      Node.signsApart]
    have hspells : Spells (⟨.leftParen, "("⟩ :: ((Node.texts children).flatMap scan ++
        ⟨.rightParen, ")"⟩ :: (Node.texts rest).flatMap scan))
        (.group (Node.signsApart children) :: Node.signsApart rest) :=
      .group (ihinner hchildren) (ih hrest)
    simpa using hspells

/-- The words for the values that are not finite begin with a letter. -/
lemma not_noForeign_write {value : Double} (h : ¬ value.IsFinite) :
    ¬ NoForeign (scan (Layout.plain.write value)) := by
  unfold NoForeign
  cases value with
  | finite negative code => exact absurd ⟨negative, code, rfl⟩ h
  | infinite negative => cases negative <;> decide
  | nan => decide

/-- When the texts of a run hold no foreign character, its literals are finite. -/
lemma isFinite_of_noForeign {nodes : List Node}
    (h : NoForeign ((Node.texts nodes).flatMap scan)) :
    ∀ value ∈ Node.valuesOfAll nodes, value.IsFinite := by
  induction nodes using Node.run_induction with
  | nil => simp [Node.valuesOfAll]
  | literal value rest ih =>
    rw [Node.texts, Node.text, List.flatMap_cons] at h
    obtain ⟨hvalue, hrest⟩ := List.forall_mem_append.mp h
    simp only [Node.valuesOfAll, Node.values, List.cons_append, List.nil_append,
      List.forall_mem_cons]
    refine ⟨?_, ih hrest⟩
    by_contra hinfinite
    exact not_noForeign_write hinfinite hvalue
  | operator op rest ih =>
    rw [Node.texts, List.flatMap_cons] at h
    simpa [Node.valuesOfAll, Node.values] using ih (List.forall_mem_append.mp h).2
  | group children rest ihinner ih =>
    rw [Node.texts, Node.text, List.flatMap_cons, scan_parenthesized, scan_intercalate] at h
    obtain ⟨hgroup, hrest⟩ := List.forall_mem_append.mp h
    have hchildren : NoForeign ((Node.texts children).flatMap scan) := by
      intro token htoken
      exact hgroup token (List.mem_cons_of_mem _ (List.mem_append_left _ htoken))
    simp only [Node.valuesOfAll, Node.values, List.forall_mem_append]
    exact ⟨ihinner hchildren, ih hrest⟩

/-! ### The round trip -/

section RoundTrip

variable {tree tree' : Tree} {limit : Nat}

/-- A source is read as exactly the tree that its tokens spell, if it is within the limit. -/
lemma ofTokens_scan_eq_ok_iff {source : String} :
    ofTokens limit (scan source) = .ok tree ↔
      Spells (scan source) tree.children ∧ tree.depth ≤ limit := by
  rw [ofTokens_eq_ok_iff, beforeEnd_scan]

/-- The tokens of a tree's text are those of the texts of its nodes. -/
lemma scan_text (tree : Tree) : scan tree.text = (Node.texts tree.children).flatMap scan :=
  scan_intercalate _

/-- A tree of magnitudes within the limit is read back from its text. -/
theorem ofTokens_scan_text (hvalues : ∀ value ∈ tree.values, value.IsMagnitude)
    (hdepth : tree.depth ≤ limit) : ofTokens limit (scan tree.text) = .ok tree := by
  have hfinite : ∀ value ∈ tree.values, value.IsFinite :=
    fun value hvalue => (hvalues value hvalue).isFinite
  have hspells := spells_texts hfinite
  rw [Node.signsApart_eq_self hvalues, ← scan_text] at hspells
  exact ofTokens_scan_eq_ok_iff.mpr ⟨hspells, hdepth⟩

/-- When a tree with as many nodes is read from the text of a tree, it is the same tree, and its
literals are magnitudes. -/
lemma eq_of_ofTokens_scan_text (h : ofTokens limit (scan tree.text) = .ok tree')
    (hsize : tree'.size = tree.size) :
    tree' = tree ∧ ∀ value ∈ tree.values, value.IsMagnitude := by
  obtain ⟨hspells', -⟩ := ofTokens_scan_eq_ok_iff.mp h
  have hforeign := hspells'.noForeign
  rw [scan_text] at hspells' hforeign
  have hfinite := isFinite_of_noForeign hforeign
  have hchildren : tree'.children = Node.signsApart tree.children :=
    hspells'.unique (spells_texts hfinite)
  -- a sign would have made a node more of it
  have hsigns : (Node.valuesOfAll tree.children).countP Double.hasSign = 0 := by
    have hcount := Node.sizeOfAll_signsApart tree.children
    rw [← hchildren] at hcount
    unfold size at hsize
    omega
  have hvalues : ∀ value ∈ tree.values, value.IsMagnitude := by
    intro value hvalue
    refine (hfinite value hvalue).isMagnitude ?_
    exact Bool.eq_false_iff.mpr (List.countP_eq_zero.mp hsigns value hvalue)
  rw [Node.signsApart_eq_self hvalues] at hchildren
  exact ⟨congrArg Tree.mk hchildren, hvalues⟩

/-- The text of a tree is read as the tree, or as one that equals it, exactly when the literals of
the tree are finite without a sign and the tree is within the limit. -/
theorem ofTokens_scan_text_iff (tree : Tree) (limit : Nat) :
    (ofTokens limit (scan tree.text) = .ok tree ↔
      (∀ value ∈ tree.values, value.IsMagnitude) ∧ tree.depth ≤ limit) ∧
    ((∃ tree', ofTokens limit (scan tree.text) = .ok tree' ∧
        tree'.numericallyEqual tree = true) ↔
      (∀ value ∈ tree.values, value.IsMagnitude) ∧ tree.depth ≤ limit) := by
  have hcondition (tree' : Tree) (h : ofTokens limit (scan tree.text) = .ok tree')
      (hsize : tree'.size = tree.size) :
      (∀ value ∈ tree.values, value.IsMagnitude) ∧ tree.depth ≤ limit := by
    obtain ⟨rfl, hvalues⟩ := eq_of_ofTokens_scan_text h hsize
    exact ⟨hvalues, (ofTokens_scan_eq_ok_iff.mp h).2⟩
  refine ⟨⟨fun h => hcondition tree h rfl, fun ⟨hvalues, hdepth⟩ => ?_⟩, ?_, ?_⟩
  · exact ofTokens_scan_text hvalues hdepth
  · rintro ⟨tree', h, hequal⟩
    exact hcondition tree' h (Node.sizeOfAll_eq_of_allNumericallyEqual hequal)
  · rintro ⟨hvalues, hdepth⟩
    refine ⟨tree, ofTokens_scan_text hvalues hdepth, ?_⟩
    exact Node.allNumericallyEqual_self fun value hvalue => (hvalues value hvalue).isFinite

end RoundTrip

end Tree

end ArithExpr
