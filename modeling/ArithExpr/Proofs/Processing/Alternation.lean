import ArithExpr.Proofs.Processing.NormalForm

/-!
# Operands side by side

An evaluator wants operands and operators to alternate.  The rules see to it that
operators are spaced, but none of them looks at what stands in front of a number or a
`(`, and the reader takes every node as it comes.  So two operands can be neighbours,
and `1 2` is a source with a tree of two literals.

Whether this happens can be read off the tokens.  A number and a `)` are the ends of
operands, a number and a `(` their beginnings, and the operands of a tree are apart in
every group exactly when no end has a beginning right behind it
(`alternates_iff_of_parse`).  The two numbers around a point are not neighbours, so a
decimal does no harm.
-/

namespace ArithExpr

/-! ### Operands of a tree and of a stream -/

/-- In a run, at least one of two neighbours is an operator. -/
def Node.OperandsApart (nodes : List Node) : Prop :=
  nodes.IsChain fun left right => left.isOperator = true ∨ right.isOperator = true

/-- In no group, the outermost run included, two operands are neighbours. -/
def Tree.Alternates (tree : Tree) : Prop :=
  Node.OperandsApart tree.children ∧ Node.EveryRunOfAll Node.OperandsApart tree.children

namespace Token

namespace Kind

/-- The kinds that an operand ends with. -/
def endsOperand : Kind → Bool
  | .number | .rightParen => true
  | _ => false

/-- The kinds that an operand begins with. -/
def beginsOperand : Kind → Bool
  | .number | .leftParen => true
  | _ => false

end Kind

/-- An operand begins right behind the end of another, which is at this place. -/
def OperandsTouch (tokens : List Token) (place : Nat) : Prop :=
  (KindAt tokens place .number ∨ KindAt tokens place .rightParen) ∧
    (KindAt tokens (place + 1) .number ∨ KindAt tokens (place + 1) .leftParen)

instance (tokens : List Token) (place : Nat) : Decidable (OperandsTouch tokens place) :=
  inferInstanceAs (Decidable ((_ ∨ _) ∧ (_ ∨ _)))

/-- Of two neighbouring kinds, the first ends no operand or the second begins none. -/
def OperandKindsApart (kinds : List Kind) : Prop :=
  kinds.IsChain fun left right => left.endsOperand = false ∨ right.beginsOperand = false

section Kinds

variable {kinds front back : List Kind} {kind : Kind} {tokens : List Token}

/-- A kind that ends no operand can stand in front of any kinds. -/
lemma operandKindsApart_cons_of_not_end (h : kind.endsOperand = false) :
    OperandKindsApart (kind :: kinds) ↔ OperandKindsApart kinds := by
  unfold OperandKindsApart
  rw [List.isChain_cons]
  exact and_iff_right fun _ _ => Or.inl h

/-- Behind the end of an operand none may begin. -/
lemma operandKindsApart_cons_of_end (h : kind.endsOperand = true) :
    OperandKindsApart (kind :: kinds) ↔
      (∀ next ∈ kinds.head?, next.beginsOperand = false) ∧ OperandKindsApart kinds := by
  unfold OperandKindsApart
  rw [List.isChain_cons, h]
  simp

/-- In front of a kind that begins no operand, what stands before it goes apart from it. -/
lemma operandKindsApart_append_cons (h : kind.beginsOperand = false) :
    OperandKindsApart (front ++ kind :: back) ↔
      OperandKindsApart front ∧ OperandKindsApart (kind :: back) := by
  unfold OperandKindsApart
  rw [List.isChain_append]
  refine ⟨fun ⟨hfront, hback, _⟩ => ⟨hfront, hback⟩, fun ⟨hfront, hback⟩ => ⟨hfront, hback, ?_⟩⟩
  intro left _ right hright
  obtain rfl : kind = right := by simpa using hright
  exact Or.inr h

/-- Two operands touch at the first place, or somewhere behind it. -/
lemma forall_not_operandsTouch_cons (token : Token) (rest : List Token) :
    (∀ place, ¬ OperandsTouch (token :: rest) place) ↔
      ¬ OperandsTouch (token :: rest) 0 ∧ ∀ place, ¬ OperandsTouch rest place := by
  have hsucc (place : Nat) :
      OperandsTouch (token :: rest) (place + 1) ↔ OperandsTouch rest place := by
    simp [OperandsTouch]
  constructor
  · intro h
    refine ⟨h 0, fun place => ?_⟩
    rw [← hsucc]
    exact h (place + 1)
  · rintro ⟨hzero, hrest⟩ (_ | place)
    · exact hzero
    · rw [hsucc]
      exact hrest place

/-- The operands of a stream are apart when they touch at no place. -/
lemma operandKindsApart_iff (tokens : List Token) :
    OperandKindsApart (tokens.map Token.kind) ↔ ∀ place, ¬ OperandsTouch tokens place := by
  induction tokens with
  | nil => simp [OperandKindsApart, OperandsTouch, KindAt]
  | cons token rest ih =>
    rw [forall_not_operandsTouch_cons, ← ih, List.map_cons]
    by_cases hend : token.kind.endsOperand = true
    · rw [operandKindsApart_cons_of_end hend]
      refine and_congr_left fun _ => ?_
      have hkind : token.kind = .number ∨ token.kind = .rightParen := by
        cases hk : token.kind <;> simp_all [Kind.endsOperand]
      cases rest with
      | nil => simp [OperandsTouch, KindAt]
      | cons next back =>
        cases hk : next.kind <;> simp [OperandsTouch, hkind, hk, Kind.beginsOperand]
    · rw [operandKindsApart_cons_of_not_end (by simpa using hend)]
      refine (and_iff_right ?_).symm
      rintro ⟨hkind, -⟩
      simp only [kindAt_cons_zero] at hkind
      rcases hkind with hk | hk <;> exact hend (by rw [hk]; rfl)

end Kinds

end Token

/-! ### The kinds that a tree is rendered by -/

namespace Node

/-- Behind an operand only an operator may follow. -/
lemma operandsApart_cons_of_operand (node : Node) (h : node.isOperator = false)
    (rest : List Node) :
    OperandsApart (node :: rest) ↔
      (∀ next ∈ rest.head?, next.isOperator = true) ∧ OperandsApart rest := by
  unfold OperandsApart
  rw [List.isChain_cons, h]
  simp

/-- An operator can stand in front of any run. -/
lemma operandsApart_operator_cons (op : Operator) (rest : List Node) :
    OperandsApart (.operator op :: rest) ↔ OperandsApart rest := by
  unfold OperandsApart
  rw [List.isChain_cons]
  exact and_iff_right fun _ _ => Or.inl rfl

end Node

namespace Tree

open Token Node

section Renders

variable {nodes : List Node} {kinds : List Kind}

/-- A rendered run begins with an operator when its kinds do not begin with an operand. -/
lemma Renders.forall_head?_iff (h : Renders nodes kinds) :
    (∀ next ∈ kinds.head?, next.beginsOperand = false) ↔
      ∀ node ∈ nodes.head?, node.isOperator = true := by
  cases h with
  | nil => simp
  | whole | decimal | group => simp [Kind.beginsOperand, isOperator]
  | @operator op => cases op <;> simp [Operator.kind, Kind.beginsOperand, isOperator]

/-- The kinds of a rendered run keep operands apart when every group of the run does. -/
theorem Renders.operandKindsApart_iff (h : Renders nodes kinds) :
    OperandKindsApart kinds ↔ OperandsApart nodes ∧ EveryRunOfAll OperandsApart nodes := by
  induction h with
  | nil => simp [OperandKindsApart, OperandsApart]
  | whole hrest ih =>
    rw [operandKindsApart_cons_of_end rfl, hrest.forall_head?_iff, ih,
      operandsApart_cons_of_operand (.literal _) rfl]
    simp only [everyRunOfAll_cons, everyRun_literal, true_and, and_assoc]
  | decimal hrest ih =>
    -- around the point there is one operand only
    have hwhole {kinds : List Kind} :
        OperandKindsApart (.number :: .point :: kinds) ↔ OperandKindsApart (.point :: kinds) := by
      rw [operandKindsApart_cons_of_end rfl]
      simp [Kind.beginsOperand]
    rw [hwhole, operandKindsApart_cons_of_not_end rfl, operandKindsApart_cons_of_end rfl,
      hrest.forall_head?_iff, ih, operandsApart_cons_of_operand (.literal _) rfl]
    simp only [everyRunOfAll_cons, everyRun_literal, true_and, and_assoc]
  | @operator op _ _ _ ih =>
    rw [operandKindsApart_cons_of_not_end (by cases op <;> rfl), ih, operandsApart_operator_cons]
    simp only [everyRunOfAll_cons, everyRun_operator, true_and]
  | group hinner hrest ihinner ih =>
    rw [operandKindsApart_cons_of_not_end rfl, operandKindsApart_append_cons rfl, ihinner,
      operandKindsApart_cons_of_end rfl, hrest.forall_head?_iff, ih,
      operandsApart_cons_of_operand (.group _) rfl]
    simp only [everyRunOfAll_cons, everyRun_group]
    tauto

end Renders

end Tree

namespace Processing

open Token ArithExpr.Tree

/-- The operands of a source's tree are apart in every group exactly when, among the tokens of the
source, no operand begins right behind the end of another. -/
theorem alternates_iff_of_parse {settings : Settings} {source : String} {tree : Tree}
    (h : (parse settings source).value = .ok tree) :
    tree.Alternates ↔ ∀ place, ¬ OperandsTouch (scan source) place := by
  obtain ⟨-, -, hrenders⟩ := renders_of_parse h
  rw [← operandKindsApart_iff]
  exact hrenders.operandKindsApart_iff.symm

/-- A product with a group keeps its operands apart, and a number right behind a group does not. -/
theorem alternates_iff_of_parse_product :
    let one : Double := .ofCode false 0x3FF0000000000000
    let product : Tree := ⟨[.literal one, .operator .multiply, .group [.literal one]]⟩
    let touching : Tree := ⟨[.group [.literal one], .literal one]⟩
    ((parse .builtIn "1*(1)").value = .ok product ∧
      (∀ place, ¬ OperandsTouch (scan "1*(1)") place) ∧ product.Alternates) ∧
    (parse .builtIn "(1)1").value = .ok touching ∧
      OperandsTouch (scan "(1)1") 2 ∧ ¬ touching.Alternates := by
  intro one product touching
  have hvalue : Numeral.double? "1".toList = some one := by decide +kernel
  have hone : Spells [⟨.number, "1"⟩] [.literal one] := .whole hvalue .nil
  have hliteral := admissible_literal one
  constructor
  · have hscan : scan "1*(1)" = [⟨.number, "1"⟩, ⟨.multiply, "*"⟩, ⟨.leftParen, "("⟩,
        ⟨.number, "1"⟩, ⟨.rightParen, ")"⟩] := by decide +kernel
    have hspells : Spells (scan "1*(1)") product.children := by
      rw [hscan]
      exact .whole hvalue (.operator rfl (.group hone .nil))
    have hadmissible : product.Admissible := hliteral.append (hliteral.operator_group .multiply)
    have hparse : (parse .builtIn "1*(1)").value = .ok product :=
      value_parse_of_spells hspells hadmissible (by decide)
    have hapart : ∀ place, ¬ OperandsTouch (scan "1*(1)") place := by
      rw [hscan]
      intro place htouch
      have hlt : place < 5 := htouch.1.elim KindAt.lt_length KindAt.lt_length
      revert htouch
      revert hlt
      revert place
      decide
    exact ⟨hparse, hapart, (alternates_iff_of_parse hparse).mpr hapart⟩
  · have hscan : scan "(1)1" = [⟨.leftParen, "("⟩, ⟨.number, "1"⟩, ⟨.rightParen, ")"⟩,
        ⟨.number, "1"⟩] := by decide +kernel
    have hspells : Spells (scan "(1)1") touching.children := by
      rw [hscan]
      exact .group hone hone
    have hadmissible : touching.Admissible := hliteral.group.append hliteral
    have hparse : (parse .builtIn "(1)1").value = .ok touching :=
      value_parse_of_spells hspells hadmissible (by decide)
    have htouch : OperandsTouch (scan "(1)1") 2 := by
      rw [hscan]
      decide
    exact ⟨hparse, htouch, fun halternates =>
      (alternates_iff_of_parse hparse).mp halternates 2 htouch⟩

/-- Two numbers with a blank between them are a source, and the operands of its tree do not
alternate with operators. -/
theorem not_alternates_two_numbers :
    let one : Double := .ofCode false 0x3FF0000000000000
    let two : Double := .ofCode false 0x4000000000000000
    let tree : Tree := ⟨[.literal one, .literal two]⟩
    (parse .builtIn "1 2").value = .ok tree ∧ ¬ tree.Alternates := by
  intro one two tree
  have hone : Numeral.double? "1".toList = some one := by decide +kernel
  have htwo : Numeral.double? "2".toList = some two := by decide +kernel
  have hscan : scan "1 2" = [⟨.number, "1"⟩, ⟨.number, "2"⟩] := by decide +kernel
  have hspells : Spells (scan "1 2") tree.children := by
    rw [hscan]
    exact .whole hone (.whole htwo .nil)
  have hadmissible : tree.Admissible := (admissible_literal one).append (admissible_literal two)
  refine ⟨value_parse_of_spells hspells hadmissible (by decide), ?_⟩
  rintro ⟨hapart, -⟩
  simp [tree, Node.OperandsApart, Node.isOperator] at hapart

end Processing

end ArithExpr
