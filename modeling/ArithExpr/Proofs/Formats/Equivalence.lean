import ArithExpr.Proofs.Formats.Documents
import ArithExpr.Proofs.Formats.Lines
import ArithExpr.Proofs.Processing.Requests

/-!
# One tree, four formats

Whether a source has a tree does not depend on the format that is asked for, and neither
does the error if it has none.  Each format shows all there is to a tree: two sources
have the same output in one of them when they have it in every other, which is when
their trees are the same (`formats_agree`).

A tree with a negative literal is written like one with an operator, and JSON has one
word for all that is not finite.  No source has such a tree, or the infinity below zero
or NaN.
-/

namespace ArithExpr

/-! ### Equality of numbers -/

/-- Numbers without a sign are equal when they are the same. -/
lemma Double.IsUnsigned.numericallyEqual_iff {value value' : Double} (hvalue : value.IsUnsigned)
    (hvalue' : value'.IsUnsigned) : value.numericallyEqual value' = true ↔ value = value' := by
  obtain ⟨code, rfl⟩ | rfl := hvalue <;> obtain ⟨code', rfl⟩ | rfl := hvalue' <;>
    simp [numericallyEqual]

namespace Node

variable {nodes nodes' : List Node}

/-- Runs without signs are equal when they are the same. -/
lemma allNumericallyEqual_iff (hunsigned : AllUnsigned nodes) (hunsigned' : AllUnsigned nodes') :
    allNumericallyEqual nodes nodes' = true ↔ nodes = nodes' := by
  induction nodes using run_induction generalizing nodes' with
  | nil => cases nodes' <;> simp [allNumericallyEqual]
  | literal value rest ih =>
    cases nodes' with
    | nil => simp [allNumericallyEqual]
    | cons node' rest' =>
      rw [allNumericallyEqual, Bool.and_eq_true, ih hunsigned.tail hunsigned'.tail, List.cons.injEq]
      cases node' with
      | literal value' =>
        have hvalue := (hunsigned.head value rfl).numericallyEqual_iff (hunsigned'.head value' rfl)
        rw [numericallyEqual, hvalue, literal.injEq]
      | operator | group => simp [numericallyEqual]
  | operator op rest ih =>
    cases nodes' with
    | nil => simp [allNumericallyEqual]
    | cons node' rest' =>
      rw [allNumericallyEqual, Bool.and_eq_true, ih hunsigned.tail hunsigned'.tail, List.cons.injEq]
      cases node' <;> simp [numericallyEqual]
  | group children rest ihinner ih =>
    cases nodes' with
    | nil => simp [allNumericallyEqual]
    | cons node' rest' =>
      rw [allNumericallyEqual, Bool.and_eq_true, ih hunsigned.tail hunsigned'.tail, List.cons.injEq]
      cases node' with
      | group children' =>
        rw [numericallyEqual, ihinner hunsigned.inside hunsigned'.inside, group.injEq]
      | literal | operator => simp [numericallyEqual]

end Node

namespace Processing

open ArithExpr.Token ArithExpr.Tree

section Outputs

variable {settings : Settings} {source : String} {format : Format} {tree tree' : Tree}

/-- The output of the last stage is that of the tree. -/
lemma value_run_ast (settings : Settings) (format : Format) (source : String) :
    (run settings ⟨.ast, format⟩ source).value =
      (parse settings source).value.bind (writeTree format) := by
  have hrun : run settings ⟨.ast, format⟩ source =
      (parse settings source).andThen fun tree => .silent (writeTree format tree) := rfl
  rw [hrun, Logged.value_andThen]
  rfl

/-- In every format trees without signs that are written alike are the same. -/
theorem eq_of_writeTree_eq (hunsigned : Node.AllUnsigned tree.children)
    (hunsigned' : Node.AllUnsigned tree'.children)
    (h : writeTree format tree = writeTree format tree') : tree = tree' := by
  cases format with
  | simple => exact eq_of_text_eq hunsigned hunsigned' (Except.ok.inj h)
  | json => exact eq_of_prettyJson_eq hunsigned hunsigned' (Except.ok.inj h)
  | yaml => exact eq_of_yaml_eq hunsigned hunsigned' (Except.ok.inj h)
  | treeviz => exact eq_of_drawing_eq hunsigned hunsigned' (Except.ok.inj h)

end Outputs

/-- A source has an output in all four formats, or it is refused with one error in all of them.  Of
two sources with trees, whatever the settings, the outputs are the same in a format when the trees
are, which for these trees is no more than equality of numbers: so they are the same in every format
or in none. -/
theorem formats_agree :
    (∀ settings source,
      (∀ format, ∃ out, (run settings ⟨.ast, format⟩ source).value = .ok out) ∨
      ∃ error, ∀ format, (run settings ⟨.ast, format⟩ source).value = .error error) ∧
    ∀ settings settings' source source' tree tree', (parse settings source).value = .ok tree →
      (parse settings' source').value = .ok tree' →
      (tree.numericallyEqual tree' = true ↔ tree = tree') ∧
      ∀ format, (run settings ⟨.ast, format⟩ source).value =
        (run settings' ⟨.ast, format⟩ source').value ↔ tree = tree' := by
  refine ⟨fun settings source => ?_,
    fun settings settings' source source' tree tree' htree htree' => ⟨?_, fun format => ?_⟩⟩
  · simp only [value_run_ast]
    cases (parse settings source).value with
    | error error => exact Or.inr ⟨error, fun _ => rfl⟩
    | ok tree => exact Or.inl fun format => exists_writeTree format tree
  · have hchildren := Node.allNumericallyEqual_iff (isUnsigned_of_parse htree)
      (isUnsigned_of_parse htree')
    exact hchildren.trans (Tree.mk.injEq _ _).symm.to_iff
  · rw [value_run_ast, value_run_ast, htree, htree']
    refine ⟨eq_of_writeTree_eq (isUnsigned_of_parse htree) (isUnsigned_of_parse htree'), ?_⟩
    rintro rfl
    rfl

/-- Parentheses show in every format, blanks in none, and what nesting is allowed makes no
difference. -/
theorem formats_agree_parentheses :
    let settings := Settings.builtIn
    let shallow : Settings := { Settings.builtIn with maxDepth := 1 }
    let one : Double := .ofCode false 0x3FF0000000000000
    let number : Tree := ⟨[.literal one]⟩
    let group : Tree := ⟨[.group [.literal one]]⟩
    ((parse settings "1").value = .ok number ∧ (parse shallow " 1").value = .ok number ∧
      (parse shallow "(1)").value = .ok group) ∧
    number.numericallyEqual group = false ∧
    ∀ format, (∃ out, (run settings ⟨.ast, format⟩ "1").value = .ok out) ∧
      (run settings ⟨.ast, format⟩ "1").value = (run shallow ⟨.ast, format⟩ " 1").value ∧
      (run settings ⟨.ast, format⟩ "1").value ≠ (run shallow ⟨.ast, format⟩ "(1)").value := by
  intro settings shallow one number group
  have hvalue : Numeral.double? "1".toList = some one := by decide +kernel
  have hscan : scan "1" = [⟨.number, "1"⟩] := by decide +kernel
  have hscan_blank : scan " 1" = [⟨.number, "1"⟩] := by decide +kernel
  have hscan_group : scan "(1)" = [⟨.leftParen, "("⟩, ⟨.number, "1"⟩, ⟨.rightParen, ")"⟩] := by
    decide +kernel
  have hnumber : (parse settings "1").value = .ok number :=
    value_parse_of_spells (hscan ▸ .whole hvalue .nil) (admissible_literal one) (by decide)
  have hblank : (parse shallow " 1").value = .ok number :=
    value_parse_of_spells (hscan_blank ▸ .whole hvalue .nil) (admissible_literal one) (by decide)
  have hgroup : (parse shallow "(1)").value = .ok group :=
    value_parse_of_spells (hscan_group ▸ .group (.whole hvalue .nil) .nil)
      (admissible_literal one).group (by decide)
  obtain ⟨-, hagree⟩ := formats_agree
  have hsame := hagree _ _ _ _ _ _ hnumber hblank
  have hother := hagree _ _ _ _ _ _ hnumber hgroup
  have hne : number ≠ group := by simp [number, group]
  refine ⟨⟨hnumber, hblank, hgroup⟩, ?_, fun format => ⟨?_, ?_, ?_⟩⟩
  · exact Bool.eq_false_iff.mpr (mt hother.1.mp hne)
  · rw [value_run_ast, hnumber]
    exact exists_writeTree format number
  · exact (hsame.2 format).mpr rfl
  · exact mt (hother.2 format).mp hne

end Processing

end ArithExpr
