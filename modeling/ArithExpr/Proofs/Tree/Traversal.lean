import ArithExpr.Proofs.Tree.Offence

/-!
# Trees and the streams they come from

A tree that is gone through in order gives back the stream it was read from, but for
one thing: a number, a point and a number that were read as one literal come back as
one number.  `joinDecimals` makes the same change to the stream, so the two can be
compared: `kinds_of_ofTokens` says that nothing is lost, doubled or moved, and that
each literal has the value of the number it was read from.
-/

namespace ArithExpr

/-! ### Going through a tree -/

namespace Node

mutual

/-- The kinds that a node is written with, from left to right; a literal is one number. -/
def kinds : Node → List Token.Kind
  | .literal _ => [.number]
  | .operator op => [op.kind]
  | .group children => .leftParen :: (kindsOfAll children ++ [.rightParen])

/-- The kinds that a run is written with. -/
def kindsOfAll : List Node → List Token.Kind
  | [] => []
  | node :: rest => node.kinds ++ kindsOfAll rest

end

mutual

/-- The literals in a node, from left to right. -/
def values : Node → List Double
  | .literal value => [value]
  | .operator _ => []
  | .group children => valuesOfAll children

/-- The literals in a run. -/
def valuesOfAll : List Node → List Double
  | [] => []
  | node :: rest => node.values ++ valuesOfAll rest

end

end Node

/-! ### Joined numbers -/

namespace Token

/-- A stream with one number in the place of each number, point and number, its text joined. -/
def joinDecimals : List Token → List Token
  | ⟨.number, whole⟩ :: ⟨.point, _⟩ :: ⟨.number, fraction⟩ :: rest =>
    ⟨.number, whole ++ "." ++ fraction⟩ :: joinDecimals rest
  | token :: rest => token :: joinDecimals rest
  | [] => []

/-- A token that is no number stays. -/
lemma joinDecimals_cons {token : Token} (h : token.kind ≠ .number) (rest : List Token) :
    joinDecimals (token :: rest) = token :: joinDecimals rest := by
  rw [joinDecimals]
  rintro whole point fraction rest' rfl
  exact absurd rfl h

/-- A number with no point behind it stays. -/
lemma joinDecimals_number {text : String} {rest : List Token} (h : NoPointAhead rest) :
    joinDecimals (⟨.number, text⟩ :: rest) = ⟨.number, text⟩ :: joinDecimals rest := by
  rw [joinDecimals]
  rintro whole point fraction rest' - rfl
  simp at h

end Token

namespace Tree

open Token

section Spells

variable {tokens : List Token} {nodes : List Node}

/-- Behind a spelled run, joining starts anew. -/
lemma Spells.joinDecimals_append (h : Spells tokens nodes) {rest : List Token}
    (hrest : NoPointAhead rest) :
    joinDecimals (tokens ++ rest) = joinDecimals tokens ++ joinDecimals rest := by
  induction h generalizing rest with
  | nil => rfl
  | whole hvalue hspells ih =>
    rw [List.cons_append, joinDecimals_number (hspells.noPointAhead.append hrest), ih hrest,
      joinDecimals_number hspells.noPointAhead, List.cons_append]
  | decimal hvalue hspells ih =>
    simp only [List.cons_append, joinDecimals]
    rw [ih hrest]
  | operator hop hspells ih =>
    have hnumber := (kind_of_operatorOf? hop).1
    rw [List.cons_append, joinDecimals_cons hnumber, ih hrest, joinDecimals_cons hnumber,
      List.cons_append]
  | group hinner hspells ihinner ih =>
    simp only [List.cons_append, List.append_assoc]
    rw [joinDecimals_cons (by simp), joinDecimals_cons (by simp), ihinner (by simp),
      ihinner (by simp), joinDecimals_cons (by simp), joinDecimals_cons (by simp), ih hrest]
    simp

/-- A spelled run is written with the kinds of its stream, once the numbers are joined. -/
lemma Spells.kinds_eq (h : Spells tokens nodes) :
    Node.kindsOfAll nodes = (joinDecimals tokens).map Token.kind := by
  induction h with
  | nil => simp [Node.kindsOfAll, joinDecimals]
  | whole hvalue hspells ih =>
    rw [Node.kindsOfAll, Node.kinds, ih, joinDecimals_number hspells.noPointAhead]
    rfl
  | decimal hvalue hspells ih =>
    rw [Node.kindsOfAll, Node.kinds, ih, joinDecimals]
    rfl
  | operator hop hspells ih =>
    rw [Node.kindsOfAll, Node.kinds, ih, joinDecimals_cons (kind_of_operatorOf? hop).1,
      List.map_cons, operatorOf?_eq_some_iff.mp hop]
    rfl
  | group hinner hspells ihinner ih =>
    rw [Node.kindsOfAll, Node.kinds, ihinner, ih, joinDecimals_cons (by simp),
      hinner.joinDecimals_append (by simp), joinDecimals_cons (by simp)]
    simp

/-- The literals of a spelled run have the values of the numbers of its stream, once these are
joined. -/
lemma Spells.values_eq (h : Spells tokens nodes) :
    (Node.valuesOfAll nodes).map some =
      ((joinDecimals tokens).filter fun token => token.kind.isNumber).map
        fun token => Numeral.double? token.literal.toList := by
  induction h with
  | nil => simp [Node.valuesOfAll, joinDecimals]
  | whole hvalue hspells ih =>
    rw [Node.valuesOfAll, Node.values, List.map_append, ih,
      joinDecimals_number hspells.noPointAhead, List.filter_cons_of_pos (by rfl), List.map_cons]
    simp [hvalue]
  | decimal hvalue hspells ih =>
    rw [Node.valuesOfAll, Node.values, List.map_append, ih, joinDecimals,
      List.filter_cons_of_pos (by rfl), List.map_cons]
    simp [hvalue]
  | @operator token op tokens nodes hop hspells ih =>
    have hnumber := (kind_of_operatorOf? hop).1
    rw [Node.valuesOfAll, Node.values, List.nil_append, ih, joinDecimals_cons hnumber,
      List.filter_cons_of_neg (by simpa [Kind.isNumber] using hnumber)]
  | group hinner hspells ihinner ih =>
    rw [Node.valuesOfAll, Node.values, List.map_append, ihinner, ih, joinDecimals_cons (by simp),
      hinner.joinDecimals_append (by simp), joinDecimals_cons (by simp)]
    simp [Kind.isNumber]

end Spells

/-! ### Points and numbers of a clean stream -/

section Decimals

variable {limit : Nat} {tokens : List Token}

/-- Where no token offends, each point lies in exactly one number, point and number. -/
lemma existsUnique_decimalAt (hclean : ∀ place error, ¬ Offence limit tokens place error)
    {place : Nat} (hpoint : KindAt tokens place .point) :
    ∃! start, DecimalAt tokens start ∧ start ≤ place ∧ place < start + 3 := by
  obtain ⟨start, rfl, hdecimal⟩ := decimalAt_of_not_offence hclean hpoint
  refine ⟨start, ⟨hdecimal, by omega, by omega⟩, ?_⟩
  rintro start' ⟨hdecimal', hle, hlt⟩
  exact (Nat.succ.inj (hdecimal'.eq_of_point hpoint hle hlt)).symm

/-- Where no token offends, no two runs of a number, a point and a number share a token. -/
lemma add_three_le_of_not_offence (hclean : ∀ place error, ¬ Offence limit tokens place error)
    {start later : Nat} (h : DecimalAt tokens start) (h' : DecimalAt tokens later)
    (hlt : start < later) : start + 3 ≤ later := by
  by_contra hle
  obtain rfl | rfl : later = start + 1 ∨ later = start + 2 := by omega
  · exact absurd (h.2.1.unique h'.1) (by decide)
  · exact not_kindAt_point_of_not_offence hclean h.2.1 h'.2.1

end Decimals

/-! ### The traversal of a tree that was read -/

/-- The kinds that a tree is written with. -/
def kinds (tree : Tree) : List Token.Kind :=
  Node.kindsOfAll tree.children

/-- The literals of a tree, from left to right. -/
def values (tree : Tree) : List Double :=
  Node.valuesOfAll tree.children

/-- A tree that was read is written with the kinds of its stream, except that each number, point and
number has become one number.  Every point of the stream lies in exactly one of these, they share
no token, and the literals have the values of the numbers, in order. -/
theorem kinds_of_ofTokens {limit : Nat} {tokens : List Token} {tree : Tree}
    (h : ofTokens limit tokens = .ok tree) :
    tree.kinds = (joinDecimals (beforeEnd tokens)).map Token.kind ∧
      (∀ place, KindAt (beforeEnd tokens) place .point →
        ∃! start, DecimalAt (beforeEnd tokens) start ∧ start ≤ place ∧ place < start + 3) ∧
      (∀ start later, DecimalAt (beforeEnd tokens) start → DecimalAt (beforeEnd tokens) later →
        start < later → start + 3 ≤ later) ∧
      tree.values.map some =
        ((joinDecimals (beforeEnd tokens)).filter fun token => token.kind.isNumber).map
          fun token => Numeral.double? token.literal.toList := by
  obtain ⟨hspells, -⟩ := ofTokens_eq_ok_iff.mp h
  obtain ⟨hclean, -⟩ := (outcome_ofTokens limit tokens).eq_ok_iff.mp ⟨tree, h⟩
  refine ⟨hspells.kinds_eq, fun place => existsUnique_decimalAt hclean, ?_, hspells.values_eq⟩
  intro start later hstart hlater hlt
  exact add_three_le_of_not_offence hclean hstart hlater hlt

/-- A decimal in a group, and what stands behind an end marker is not read. -/
theorem kinds_of_ofTokens_decimal_in_group :
    let tokens : List Token := [⟨.leftParen, "("⟩, ⟨.number, "1"⟩, ⟨.point, "."⟩, ⟨.number, "5"⟩,
      ⟨.rightParen, ")"⟩, ⟨.minus, "-"⟩, ⟨.number, "2"⟩, endOfStream, ⟨.point, "."⟩]
    let tree : Tree := ⟨[.group [.literal (.ofCode false 0x3FF8000000000000)], .operator .minus,
      .literal (.ofCode false 0x4000000000000000)]⟩
    ofTokens 1 tokens = .ok tree ∧
      tree.kinds = (joinDecimals (beforeEnd tokens)).map Token.kind ∧
      (∃! start, DecimalAt (beforeEnd tokens) start ∧ start ≤ 2 ∧ 2 < start + 3) ∧
      tree.values.map some =
        ((joinDecimals (beforeEnd tokens)).filter fun token => token.kind.isNumber).map
          fun token => Numeral.double? token.literal.toList := by
  intro tokens tree
  have hhalf : Numeral.double? ("1".toList ++ '.' :: "5".toList) =
      some (.ofCode false 0x3FF8000000000000) := by decide +kernel
  have htwo : Numeral.double? "2".toList = some (.ofCode false 0x4000000000000000) := by
    decide +kernel
  have hread : ofTokens 1 tokens = .ok tree := by
    have hinner : Spells [⟨.number, "1"⟩, ⟨.point, "."⟩, ⟨.number, "5"⟩]
        [.literal (.ofCode false 0x3FF8000000000000)] := .decimal hhalf .nil
    refine ofTokens_eq_ok_iff.mpr ⟨?_, by simp [tree, depth]⟩
    exact .group hinner (.operator rfl (.whole htwo .nil))
  obtain ⟨hkinds, hpoints, -, hvalues⟩ := kinds_of_ofTokens hread
  exact ⟨hread, hkinds, hpoints 2 (by decide), hvalues⟩

end Tree

end ArithExpr
