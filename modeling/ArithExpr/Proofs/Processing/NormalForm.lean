import ArithExpr.Proofs.Processing.Stages
import ArithExpr.Proofs.Token.Foreign
import ArithExpr.Proofs.Tree.RoundTrip

/-!
# Trees of sources as text

The tree of a source, written as text, is a source again.  Its literals come from runs
of digits, so they have no sign (`isUnsigned_of_parse`).  If all of them are finite,
the text passes the three stages like the source did and gives the same tree: nothing
changes when it is read and written once more.

A run of digits beyond the greatest finite double is read as infinity and written as a
word.  No source contains this word, so a text with it is turned away at its first
letter, where it stands for the first time (`freeUpTo_text`).
-/

namespace ArithExpr

/-! ### The literals of a source -/

/-- A value that can be read from digits: finite or infinite, with no sign. -/
def Double.IsUnsigned (value : Double) : Prop :=
  value.IsMagnitude ∨ value = .infinite false

/-- A code without a sign is that of a value without one. -/
lemma Double.isUnsigned_ofCode (code : Nat) : (Double.ofCode false code).IsUnsigned := by
  unfold ofCode
  split
  · next h => exact Or.inl ⟨⟨code, h⟩, rfl⟩
  · exact Or.inr rfl

/-- Rounding a decimal without a sign gives a value without one. -/
lemma Decimal.isUnsigned_toDouble (d : Decimal) : (d.toDouble false).IsUnsigned := by
  simp only [toDouble]
  split_ifs
  · exact Double.isUnsigned_ofCode _
  · exact Or.inr rfl
  · exact Double.isUnsigned_ofCode _
  · exact Double.isUnsigned_ofCode _

namespace Tree

open Token

/-- The literals that a stream with digit runs for numbers spells have no sign. -/
lemma Spells.isUnsigned {tokens : List Token} {nodes : List Node} (h : Spells tokens nodes)
    (hdigits : DigitNumbers tokens) : ∀ value ∈ Node.valuesOfAll nodes, value.IsUnsigned := by
  have hpositional {text : List Char} {d : Decimal} {value : Double}
      (htext : Numeral.Positional text d) (hvalue : Numeral.double? text = some value) :
      value.IsUnsigned := by
    rw [htext.double?_eq] at hvalue
    rw [← Option.some.inj hvalue]
    exact d.isUnsigned_toDouble
  induction h with
  | nil => simp [Node.valuesOfAll]
  | whole hvalue _ ih =>
    obtain ⟨hdigit, hrest⟩ := List.forall_mem_cons.mp hdigits
    rw [Node.valuesOfAll, Node.values, List.singleton_append]
    exact List.forall_mem_cons.mpr ⟨hpositional (.whole (hdigit rfl)) hvalue, ih hrest⟩
  | decimal hvalue _ ih =>
    obtain ⟨hwhole, hdigits⟩ := List.forall_mem_cons.mp hdigits
    obtain ⟨-, hdigits⟩ := List.forall_mem_cons.mp hdigits
    obtain ⟨hfraction, hrest⟩ := List.forall_mem_cons.mp hdigits
    have htext := Numeral.Positional.decimal (hwhole rfl) (hfraction rfl)
    rw [Node.valuesOfAll, Node.values, List.singleton_append]
    exact List.forall_mem_cons.mpr ⟨hpositional htext hvalue, ih hrest⟩
  | operator _ _ ih =>
    obtain ⟨-, hrest⟩ := List.forall_mem_cons.mp hdigits
    rw [Node.valuesOfAll, Node.values, List.nil_append]
    exact ih hrest
  | group _ _ ihinner ih =>
    obtain ⟨-, hdigits⟩ := List.forall_mem_cons.mp hdigits
    obtain ⟨hwithin, hdigits⟩ := List.forall_mem_append.mp hdigits
    obtain ⟨-, hrest⟩ := List.forall_mem_cons.mp hdigits
    rw [Node.valuesOfAll, Node.values]
    exact List.forall_mem_append.mpr ⟨ihinner hwithin, ih hrest⟩

/-! ### Texts with infinities -/

/-- The text of a node of magnitudes holds no foreign character. -/
lemma noForeign_text {node : Node} (h : ∀ value ∈ node.values, value.IsMagnitude) :
    NoForeign (scan node.text) := by
  have hspells : Spells ((Node.texts [node]).flatMap scan) (Node.signsApart [node]) := by
    refine spells_texts fun value hvalue => ?_
    rw [Node.valuesOfAll, Node.valuesOfAll, List.append_nil] at hvalue
    exact (h value hvalue).isFinite
  simpa [Node.texts] using hspells.noForeign

/-- What is true of the first node of a run and of the others is true of the run: its literals are
magnitudes, or its text is free of foreign characters up to the word for infinity. -/
lemma freeUpTo_texts_cons {node : Node} {rest : List Node}
    (hnode : (∀ value ∈ node.values, value.IsMagnitude) ∨ FreeUpTo "inf" node.text)
    (hrest : (∀ value ∈ Node.valuesOfAll rest, value.IsMagnitude) ∨
      FreeUpTo "inf" (" ".intercalate (Node.texts rest))) :
    (∀ value ∈ Node.valuesOfAll (node :: rest), value.IsMagnitude) ∨
      FreeUpTo "inf" (" ".intercalate (Node.texts (node :: rest))) := by
  rw [Node.valuesOfAll, Node.texts]
  rcases hnode with hnode | hnode
  · rcases hrest with hrest | hrest
    · exact Or.inl (List.forall_mem_append.mpr ⟨hnode, hrest⟩)
    · exact Or.inr (freeUpTo_intercalate_tail (noForeign_text hnode) hrest)
  · exact Or.inr (freeUpTo_intercalate_head hnode _)

/-- A run whose literals have no sign consists of magnitudes, or its text is free of foreign
characters up to the word for infinity. -/
theorem freeUpTo_texts {nodes : List Node}
    (h : ∀ value ∈ Node.valuesOfAll nodes, value.IsUnsigned) :
    (∀ value ∈ Node.valuesOfAll nodes, value.IsMagnitude) ∨
      FreeUpTo "inf" (" ".intercalate (Node.texts nodes)) := by
  induction nodes using Node.run_induction with
  | nil => exact Or.inl (by simp [Node.valuesOfAll])
  | literal value rest ih =>
    rw [Node.valuesOfAll, Node.values, List.singleton_append] at h
    obtain ⟨hvalue, hrest⟩ := List.forall_mem_cons.mp h
    refine freeUpTo_texts_cons ?_ (ih hrest)
    rcases hvalue with hmagnitude | rfl
    · exact Or.inl (by simpa [Node.values] using hmagnitude)
    · have hword : (Node.literal (.infinite false)).text = "inf" := by
        rw [Node.text]
        rfl
      rw [hword]
      exact Or.inr (freeUpTo_self "inf")
  | operator op rest ih =>
    rw [Node.valuesOfAll, Node.values, List.nil_append] at h
    refine freeUpTo_texts_cons (Or.inl ?_) (ih h)
    simp [Node.values]
  | group children rest ihinner ih =>
    rw [Node.valuesOfAll, Node.values] at h
    obtain ⟨hchildren, hrest⟩ := List.forall_mem_append.mp h
    refine freeUpTo_texts_cons ?_ (ih hrest)
    rw [Node.values, Node.text]
    refine (ihinner hchildren).imp id fun hinside => ?_
    have hopen : NoForeign (scan "(") := by
      unfold NoForeign
      decide
    exact (hinside.prepend hopen).append ")"

end Tree

namespace Processing

open Token ArithExpr.Tree

/-! ### Reading the text of a tree again -/

section Again

variable {settings : Settings} {source : String} {tree : Tree}

/-- The simple form of a source that has a tree is the tree's text. -/
lemma value_run_simple (h : (parse settings source).value = .ok tree) :
    (run settings ⟨.ast, .simple⟩ source).value = .ok tree.text := by
  have hrun : run settings ⟨.ast, .simple⟩ source =
      (parse settings source).andThen fun tree => .silent (writeTree .simple tree) := rfl
  rw [hrun, Logged.value_andThen, h]
  rfl

/-- The tokens of a source spell its tree. -/
lemma spells_of_parse (h : (parse settings source).value = .ok tree) :
    Spells (scan source) tree.children := by
  obtain ⟨-, -, htree⟩ := value_parse_eq_ok_iff.mp h
  exact (ofTokens_scan_eq_ok_iff.mp htree).1

/-- The literals of a source's tree have no sign. -/
lemma isUnsigned_of_parse (h : (parse settings source).value = .ok tree) :
    ∀ value ∈ tree.values, value.IsUnsigned := by
  exact (spells_of_parse h).isUnsigned (digitNumbers_scan source)

/-- A source that spells an admissible tree within the limit has this tree. -/
lemma value_parse_of_spells (hspells : Spells (scan source) tree.children)
    (hadmissible : tree.Admissible) (hdepth : tree.depth ≤ clampDepth settings.maxDepth) :
    (parse settings source).value = .ok tree := by
  obtain ⟨tree', hparse⟩ :=
    exists_parse_of_renders hspells.noForeign hadmissible hdepth hspells.renders
  have hchildren : tree'.children = tree.children := (spells_of_parse hparse).unique hspells
  rw [hparse]
  exact congrArg (Except.ok ∘ Tree.mk) hchildren

/-- An admissible tree of magnitudes within the limit is the tree of its text. -/
lemma value_parse_text (hvalues : ∀ value ∈ tree.values, value.IsMagnitude)
    (hadmissible : tree.Admissible) (hdepth : tree.depth ≤ clampDepth settings.maxDepth) :
    (parse settings tree.text).value = .ok tree := by
  have hread : ofTokens (clampDepth settings.maxDepth) (scan tree.text) = .ok tree :=
    ofTokens_scan_text hvalues hdepth
  obtain ⟨hspells, -⟩ := ofTokens_scan_eq_ok_iff.mp hread
  exact value_parse_of_spells hspells hadmissible hdepth

/-- A source that is free of foreign characters up to the word for infinity is turned away at the
first place of that word. -/
lemma value_parse_of_freeUpTo (h : FreeUpTo "inf" source) :
    ∃ offset, IsLeast {offset | Occurs "inf" source offset} offset ∧
      (parse settings source).value = .error (.lexical ⟨.unknown, "i"⟩ offset) := by
  obtain ⟨front, back, rfl, hfront⟩ := h
  have hi : IsForeign 'i' := by decide
  refine ⟨front.utf8ByteSize, isLeast_occurs hfront hi rfl, ?_⟩
  have hsource : front ++ "inf" ++ back =
      front ++ String.ofList ('i' :: ("nf" ++ back).toList) := by
    rw [← String.toList_inj]
    simp
  have hlex : (lex (front ++ "inf" ++ back)).value =
      .error (.lexical ⟨.unknown, "i"⟩ front.utf8ByteSize) := by
    rw [hsource, lex]
    simp only [find?_foreign_append hfront hi]
    rfl
  rw [value_parse, hlex]
  rfl

/-- The tree of a source, written as text, is read as the same tree and written as the same text,
unless a literal is infinite; then the text is turned away at the first letter of its first
`inf`. -/
theorem run_simple_normal_form (h : (parse settings source).value = .ok tree) :
    ∃ out, (run settings ⟨.ast, .simple⟩ source).value = .ok out ∧
      ((∀ negative, .infinite negative ∉ tree.values) →
        (parse settings out).value = .ok tree ∧
          (run settings ⟨.ast, .simple⟩ out).value = .ok out) ∧
      ((∃ negative, .infinite negative ∈ tree.values) →
        ∃ offset, IsLeast {offset | Occurs "inf" out offset} offset ∧
          (parse settings out).value = .error (.lexical ⟨.unknown, "i"⟩ offset)) := by
  have hunsigned := isUnsigned_of_parse h
  refine ⟨tree.text, value_run_simple h, fun hfinite => ?_, fun hinfinite => ?_⟩
  · obtain ⟨hadmissible, hdepth, -⟩ := renders_of_parse h
    have hvalues : ∀ value ∈ tree.values, value.IsMagnitude := by
      intro value hvalue
      refine (hunsigned value hvalue).resolve_right ?_
      rintro rfl
      exact hfinite false hvalue
    have hagain : (parse settings tree.text).value = .ok tree :=
      value_parse_text hvalues hadmissible hdepth
    exact ⟨hagain, value_run_simple hagain⟩
  · obtain ⟨negative, hmem⟩ := hinfinite
    have hnot : ¬ ∀ value ∈ tree.values, value.IsMagnitude := by
      intro hvalues
      obtain ⟨code, heq⟩ := hvalues _ hmem
      cases heq
    exact value_parse_of_freeUpTo ((freeUpTo_texts hunsigned).resolve_left hnot)

end Again

/-- A decimal is written as a shorter number, and stays so; a number of 310 digits is written as a
word, and the text is not an expression any more. -/
theorem run_simple_normal_form_of_group :
    let one : Double := .ofCode false 0x3FF0000000000000
    let huge := "(" ++ String.ofList ('1' :: List.replicate 309 '0') ++ ")"
    let group (value : Double) : Tree := ⟨[.group [.literal value]]⟩
    ((parse .builtIn "(1.0)").value = .ok (group one) ∧
      ∃ out, (run .builtIn ⟨.ast, .simple⟩ "(1.0)").value = .ok out ∧
        (parse .builtIn out).value = .ok (group one) ∧
        (run .builtIn ⟨.ast, .simple⟩ out).value = .ok out) ∧
    (parse .builtIn huge).value = .ok (group (.infinite false)) ∧
      ∃ out, (run .builtIn ⟨.ast, .simple⟩ huge).value = .ok out ∧
        ∃ offset, IsLeast {offset | Occurs "inf" out offset} offset ∧
          (parse .builtIn out).value = .error (.lexical ⟨.unknown, "i"⟩ offset) := by
  intro one huge group
  have hparse {source : String} {value : Double}
      (hspells : Spells (scan source) [.group [.literal value]]) :
      (parse .builtIn source).value = .ok (group value) := by
    refine value_parse_of_spells hspells ⟨?_, ?_, ?_⟩ ?_
    · simp [group, Node.OperatorsSpaced]
    · simp [group, Node.OperatorsSpaced]
    · simp [group, Node.NoOperatorLast]
    · simp [group, depth, clampDepth, Settings.builtIn, defaultMaxDepth, maxDepthCeiling]
  have hvalues (value : Double) : (group value).values = [value] := by
    simp [group, values, Node.valuesOfAll, Node.values]
  constructor
  · have hscan : scan "(1.0)" = [⟨.leftParen, "("⟩, ⟨.number, "1"⟩, ⟨.point, "."⟩, ⟨.number, "0"⟩,
        ⟨.rightParen, ")"⟩] := by decide +kernel
    have hone : Numeral.double? ("1".toList ++ '.' :: "0".toList) = some one := by decide +kernel
    have hinner : Spells [⟨.number, "1"⟩, ⟨.point, "."⟩, ⟨.number, "0"⟩] [.literal one] :=
      .decimal hone .nil
    have hspells : Spells (scan "(1.0)") [.group [.literal one]] := by
      rw [hscan]
      exact .group hinner .nil
    obtain ⟨out, hrun, hfinite, -⟩ := run_simple_normal_form (hparse hspells)
    refine ⟨hparse hspells, out, hrun, hfinite fun negative => ?_⟩
    rw [hvalues]
    cases negative <;> decide
  · have hdigits : Text.IsDigitRun ('1' :: List.replicate 309 '0') :=
      ⟨List.cons_ne_nil _ _, List.forall_mem_cons.mpr ⟨rfl, fun _ => Text.isDigit_of_mem_zeros⟩⟩
    have hvalue : Numeral.double? (String.ofList ('1' :: List.replicate 309 '0')).toList =
        some (.infinite false) := by
      rw [String.toList_ofList]
      decide +kernel
    have hspells : Spells (scan huge) [.group [.literal (.infinite false)]] := by
      rw [scan_parenthesized, scan_digits hdigits]
      exact .group (.whole hvalue .nil) .nil
    obtain ⟨out, hrun, -, hinfinite⟩ := run_simple_normal_form (hparse hspells)
    refine ⟨hparse hspells, out, hrun, hinfinite ⟨false, ?_⟩⟩
    rw [hvalues]
    exact List.mem_singleton_self _

end Processing

end ArithExpr
