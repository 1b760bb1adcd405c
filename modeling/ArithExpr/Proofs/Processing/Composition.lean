import ArithExpr.Proofs.Processing.Limit
import ArithExpr.Proofs.Processing.NormalForm

/-!
# Composed expressions

Expressions are put together from expressions: two of them side by side with a blank
between them, one in parentheses, one behind an operator and in parentheses.  The tree
of the whole is put together from the trees of the parts in the same way
(`parse_composed`), and the nesting limit is the only thing that can stand in its way.

The rules treat the ends of a stream unlike its inside, so an end that was let pass
could become a fault once something stands behind it.  Two facts close this gap.  What
a stream spells is spelled in any company (`Spells.append`), because a point at an end
spells nothing; and the tree of a source does not end on an operator, so that no
operator comes to stand in front of what is added (`Admissible.append`).
-/

namespace ArithExpr

/-- The depth of two runs side by side is the greater one of theirs. -/
lemma Node.depthOfAll_append (front back : List Node) :
    depthOfAll (front ++ back) = max (depthOfAll front) (depthOfAll back) := by
  induction front with
  | nil => simp
  | cons node rest ih => simp only [List.cons_append, depthOfAll_cons, ih, Nat.max_assoc]

namespace Processing

open Token ArithExpr.Tree

/-! ### The tokens of composed sources -/

section Tokens

variable {front back : String} {nodes nodes' : List Node}

/-- An operator keeps what stands on its sides apart, and its token comes between theirs. -/
lemma scan_append_symbol_append (op : Operator) (front back : String) :
    scan (front ++ op.symbol ++ back) = scan front ++ ⟨op.kind, op.symbol⟩ :: scan back := by
  have hsymbol : ∃ c : Char, c.isDigit = false ∧ op.symbol = String.singleton c ∧
      ofPiece? [c] = some ⟨op.kind, op.symbol⟩ := by
    cases op with
    | multiply => exact ⟨'*', by decide⟩
    | divide => exact ⟨'/', by decide⟩
    | plus => exact ⟨'+', by decide⟩
    | minus => exact ⟨'-', by decide⟩
  obtain ⟨c, hdigit, hsingleton, hpiece⟩ := hsymbol
  rw [hsingleton, scan_append_singleton_append hdigit, hpiece, hsingleton]
  rfl

/-- A source in parentheses spells one group. -/
lemma spells_parenthesized (h : Spells (scan front) nodes) :
    Spells (scan ("(" ++ front ++ ")")) [.group nodes] := by
  rw [scan_parenthesized]
  exact .group h .nil

/-- Sources side by side with a blank between them spell the runs side by side. -/
lemma spells_append_blank {blank : Char} (hblank : Text.isBlank blank = true)
    (h : Spells (scan front) nodes) (h' : Spells (scan back) nodes') :
    Spells (scan (front ++ String.singleton blank ++ back)) (nodes ++ nodes') := by
  rw [scan_append_blank_append hblank]
  exact h.append h'

/-- Sources on the sides of an operator spell the runs with the operator between them. -/
lemma spells_append_symbol (op : Operator) (h : Spells (scan front) nodes)
    (h' : Spells (scan back) nodes') :
    Spells (scan (front ++ op.symbol ++ back)) (nodes ++ .operator op :: nodes') := by
  rw [scan_append_symbol_append]
  exact h.append (.operator (operatorOf?_eq_some_iff.mpr rfl) h')

end Tokens

/-! ### Trees of composed sources -/

section Compose

variable {settings : Settings} {source front back : String} {tree tree' : Tree}

/-- A source that spells an admissible tree beyond the limit is turned away with the limit. -/
lemma value_parse_of_spells_of_lt (hspells : Spells (scan source) tree.children)
    (hadmissible : tree.Admissible) (hdeep : clampDepth settings.maxDepth < tree.depth) :
    (parse settings source).value =
      .error (.parse (.nestingTooDeep (clampDepth settings.maxDepth))) := by
  have hlex : (lex source).value = .ok (scan source) :=
    value_lex_eq_ok_iff.mpr ⟨hspells.noForeign, rfl⟩
  have hvalid : Validity.check (scan source) = .ok () :=
    check_scan_of_renders hadmissible hspells.renders
  have hread : ofTokens (clampDepth settings.maxDepth) (scan source) =
      .error (.nestingTooDeep (clampDepth settings.maxDepth)) := by
    refine ofTokens_eq_nestingTooDeep ?_ hdeep
    rwa [beforeEnd_scan]
  rw [value_parse, hlex]
  simp only [Except.bind]
  rw [if_pos ((valid_ofVerdict_iff _ _).mpr hvalid), hread]
  rfl

/-- When one part of an admissible tree is within the limit and the rest of it is a group, a source
that spells the tree has it if the group is within the limit too, and else is turned away. -/
lemma value_parse_of_depth_eq {size inside : Nat} (hspells : Spells (scan source) tree.children)
    (hadmissible : tree.Admissible) (hdepth : tree.depth = max size (inside + 1))
    (hsize : size ≤ clampDepth settings.maxDepth) :
    (inside + 1 ≤ clampDepth settings.maxDepth →
      (parse settings source).value = .ok tree) ∧
    (¬ inside + 1 ≤ clampDepth settings.maxDepth →
      (parse settings source).value =
        .error (.parse (.nestingTooDeep (clampDepth settings.maxDepth)))) := by
  constructor
  · intro hfits
    refine value_parse_of_spells hspells hadmissible ?_
    rw [hdepth]
    exact Nat.max_le.mpr ⟨hsize, hfits⟩
  · intro hdeep
    refine value_parse_of_spells_of_lt hspells hadmissible ?_
    rw [hdepth]
    exact Nat.lt_of_lt_of_le (Nat.lt_of_not_le hdeep) (Nat.le_max_right _ _)

/-- Two sources that have trees give one tree with a blank between them, with the nodes of both.  In
parentheses, a source gives a group; and a source, an operator and another source in parentheses
give the nodes of the first, the operator and the group.  Only the limit can turn a group away. -/
theorem parse_composed (hfront : (parse settings front).value = .ok tree)
    (hback : (parse settings back).value = .ok tree') :
    (∀ blank, Text.isBlank blank = true →
      (parse settings (front ++ String.singleton blank ++ back)).value =
        .ok ⟨tree.children ++ tree'.children⟩) ∧
    ((tree.depth + 1 ≤ min settings.maxDepth 1024 →
        (parse settings ("(" ++ front ++ ")")).value = .ok ⟨[.group tree.children]⟩) ∧
      (¬ tree.depth + 1 ≤ min settings.maxDepth 1024 →
        (parse settings ("(" ++ front ++ ")")).value =
          .error (.parse (.nestingTooDeep (min settings.maxDepth 1024))))) ∧
    ∀ op : Operator,
      (tree'.depth + 1 ≤ min settings.maxDepth 1024 →
        (parse settings (front ++ op.symbol ++ "(" ++ back ++ ")")).value =
          .ok ⟨tree.children ++ [.operator op, .group tree'.children]⟩) ∧
      (¬ tree'.depth + 1 ≤ min settings.maxDepth 1024 →
        (parse settings (front ++ op.symbol ++ "(" ++ back ++ ")")).value =
          .error (.parse (.nestingTooDeep (min settings.maxDepth 1024)))) := by
  obtain ⟨hadmissible, hdepth, -⟩ := renders_of_parse hfront
  obtain ⟨hadmissible', hdepth', -⟩ := renders_of_parse hback
  have hspells := spells_of_parse hfront
  have hspells' := spells_of_parse hback
  unfold depth at hdepth hdepth'
  refine ⟨fun blank hblank => ?_, ?_, fun op => ?_⟩
  · refine value_parse_of_spells (spells_append_blank hblank hspells hspells')
      (hadmissible.append hadmissible') ?_
    rw [depth, Node.depthOfAll_append]
    exact Nat.max_le.mpr ⟨hdepth, hdepth'⟩
  · have hsize : depth ⟨[.group tree.children]⟩ = max 0 (tree.depth + 1) := by simp [depth]
    exact value_parse_of_depth_eq (spells_parenthesized hspells) hadmissible.group hsize
      (Nat.zero_le _)
  · have hwhole : Spells (scan (front ++ op.symbol ++ "(" ++ back ++ ")"))
        (tree.children ++ [.operator op, .group tree'.children]) := by
      have hsource : front ++ op.symbol ++ "(" ++ back ++ ")" =
          front ++ op.symbol ++ ("(" ++ back ++ ")") := by
        simp only [String.append_assoc]
      rw [hsource]
      exact spells_append_symbol op hspells (spells_parenthesized hspells')
    have hsize : depth ⟨tree.children ++ [.operator op, .group tree'.children]⟩ =
        max tree.depth (tree'.depth + 1) := by
      simp [depth, Node.depthOfAll_append]
    exact value_parse_of_depth_eq hwhole (hadmissible.append (hadmissible'.operator_group op)) hsize
      hdepth

end Compose

/-- With one level of groups allowed, a group and a number can stand side by side, also with an
ideographic space between them, and the number can be subtracted in parentheses, but the group has
no place in another one. -/
theorem parse_composed_one_level :
    let settings : Settings := { Settings.builtIn with maxDepth := 1 }
    let one : Double := .ofCode false 0x3FF0000000000000
    let number : Tree := ⟨[.literal one]⟩
    let group : Tree := ⟨[.group [.literal one]]⟩
    ((parse settings "1").value = .ok number ∧ (parse settings "(1)").value = .ok group) ∧
    (parse settings ("(1)" ++ String.singleton '\u3000' ++ "1")).value =
      .ok ⟨[.group [.literal one], .literal one]⟩ ∧
    (parse settings ("(1)" ++ "-" ++ "(" ++ "1" ++ ")")).value =
      .ok ⟨[.group [.literal one], .operator .minus, .group [.literal one]]⟩ ∧
    (parse settings ("(" ++ "(1)" ++ ")")).value = .error (.parse (.nestingTooDeep 1)) ∧
    (parse settings ("1" ++ "*" ++ "(" ++ "(1)" ++ ")")).value =
      .error (.parse (.nestingTooDeep 1)) := by
  intro settings one number group
  have hvalue : Numeral.double? "1".toList = some one := by decide +kernel
  have hone : Spells (scan "1") number.children := by
    have hscan : scan "1" = [⟨.number, "1"⟩] := by decide +kernel
    rw [hscan]
    exact .whole hvalue .nil
  have hnumber : (parse settings "1").value = .ok number :=
    value_parse_of_spells hone (admissible_literal one) (by decide)
  have hgroup : (parse settings "(1)").value = .ok group :=
    value_parse_of_spells (spells_parenthesized hone) (admissible_literal one).group (by decide)
  obtain ⟨hblank, ⟨-, hnested⟩, hoperator⟩ := parse_composed hgroup hnumber
  obtain ⟨-, -, hoperator'⟩ := parse_composed hnumber hgroup
  refine ⟨⟨hnumber, hgroup⟩, hblank _ (by decide), ?_, hnested (by decide), ?_⟩
  · exact (hoperator .minus).1 (by decide)
  · exact (hoperator' .multiply).2 (by decide)

end Processing

end ArithExpr
