import ArithExpr.Proofs.Tree.Paths
import ArithExpr.Proofs.Tree.Residue
import ArithExpr.Proofs.Validity.History

/-!
# What kinds decide

The literals of a stream matter where a number is read and nowhere else.  The rules
look at kinds only, and the kind of fault that they find is the same in two streams
with the same kinds (`answer_check_congr`).  If the numbers of both are runs of digits,
no number fails to be read, so that the same tokens offend in both, and the readings fail
alike or give trees of one shape.

Nothing behind an end marker has any part in this.
-/

namespace ArithExpr

namespace Token

/-- Two streams have the same kinds in front of their end markers. -/
def SameKinds (tokens tokens' : List Token) : Prop :=
  (tokens.takeWhile fun token => token.kind ≠ .endOfStream).map Token.kind =
    (tokens'.takeWhile fun token => token.kind ≠ .endOfStream).map Token.kind

instance : DecidableRel SameKinds :=
  fun _ _ => inferInstanceAs (Decidable (_ = _))

section Places

variable {tokens tokens' : List Token}

/-- Two streams with the same kinds have them in the parts that the checker and the reader see. -/
lemma SameKinds.map_kind_beforeEnd (h : SameKinds tokens tokens') :
    (beforeEnd tokens).map Token.kind = (beforeEnd tokens').map Token.kind :=
  h

/-- The kind at a place is one of the kinds of the stream. -/
lemma kindAt_iff_getElem?_map (tokens : List Token) (place : Nat) (kind : Kind) :
    KindAt tokens place kind ↔ (tokens.map Token.kind)[place]? = some kind := by
  rw [KindAt, List.getElem?_map]

/-- Streams with the same kinds have them at the same places. -/
lemma kindAt_congr (h : tokens.map Token.kind = tokens'.map Token.kind) (place : Nat)
    (kind : Kind) : KindAt tokens place kind ↔ KindAt tokens' place kind := by
  rw [kindAt_iff_getElem?_map, kindAt_iff_getElem?_map, h]

/-- Streams with the same kinds have the same nestings. -/
lemma nesting_congr (h : tokens.map Token.kind = tokens'.map Token.kind) (count : Nat) :
    nesting tokens count = nesting tokens' count := by
  rw [nesting, nesting, List.map_take, List.map_take, h]

/-- Streams with the same kinds are of the same length. -/
lemma length_congr (h : tokens.map Token.kind = tokens'.map Token.kind) :
    tokens.length = tokens'.length := by
  simpa using congrArg List.length h

end Places

end Token

/-! ### Verdicts -/

namespace Validity

open Token

section Verdicts

variable {tokens tokens' : List Token} {verdict verdict' : Except Rejection Unit}

/-- Every rejection by a verdict is an instance of one fault. -/
def BlamesOnly (fault : Fault) (verdict : Except Rejection Unit) : Prop :=
  ∀ rejection, verdict = .error rejection → rejection.fault = fault

/-- The rule on operators blames operators. -/
lemma blamesOnly_checkOperators (tokens : List Token) :
    BlamesOnly .operatorInvalid (checkOperators tokens) := by
  intro rejection h
  obtain ⟨place, hbreach⟩ := (h ▸ findsFirst_checkOperators tokens).exists_breach
  exact hbreach.fault_eq

/-- The rule on points blames points. -/
lemma blamesOnly_checkPoints (tokens : List Token) :
    BlamesOnly .dotInvalid (checkPoints tokens) := by
  intro rejection h
  obtain ⟨place, hbreach⟩ := (h ▸ findsFirst_checkPoints tokens).exists_breach
  exact hbreach.fault_eq

/-- Verdicts that blame one fault only and succeed together are told alike. -/
lemma answer_eq_of_blamesOnly {fault : Fault} (hblame : BlamesOnly fault verdict)
    (hblame' : BlamesOnly fault verdict') (hok : verdict = .ok () ↔ verdict' = .ok ()) :
    answer verdict = answer verdict' := by
  cases verdict with
  | ok => rw [hok.mp rfl]
  | error rejection =>
    cases verdict' with
    | ok => exact absurd (hok.mpr rfl) nofun
    | error rejection' =>
      have hfault : rejection.fault = rejection'.fault :=
        (hblame _ rfl).trans (hblame' _ rfl).symm
      simp only [answer, Except.mapError, hfault]

/-- The rule on parentheses sees kinds only. -/
lemma parensFrom_congr (h : tokens.map Token.kind = tokens'.map Token.kind) (index depth : Nat) :
    parensFrom index depth tokens = parensFrom index depth tokens' := by
  induction tokens generalizing tokens' index depth with
  | nil =>
    rw [List.map_nil] at h
    rw [List.map_eq_nil_iff.mp h.symm]
  | cons token rest ih =>
    obtain ⟨token', rest', rfl, hkind, hrest⟩ := List.map_eq_cons_iff.mp h.symm
    unfold parensFrom
    rw [hkind]
    simp only [ih hrest.symm]

/-- The rule on operators tells the same of streams with the same kinds, though it may write down
other texts. -/
lemma answer_checkOperators_congr (h : tokens.map Token.kind = tokens'.map Token.kind) :
    answer (checkOperators tokens) = answer (checkOperators tokens') := by
  have hok : checkOperators tokens = .ok () ↔ checkOperators tokens' = .ok () := by
    rw [checkOperators_eq_ok_iff, checkOperators_eq_ok_iff, h]
  exact answer_eq_of_blamesOnly (blamesOnly_checkOperators _) (blamesOnly_checkOperators _) hok

/-- The rule on points tells the same of streams with the same kinds. -/
lemma answer_checkPoints_congr (h : tokens.map Token.kind = tokens'.map Token.kind) :
    answer (checkPoints tokens) = answer (checkPoints tokens') := by
  have hok : checkPoints tokens = .ok () ↔ checkPoints tokens' = .ok () := by
    rw [checkPoints_eq_ok_iff, checkPoints_eq_ok_iff]
    unfold PointRule DecimalAt
    simp only [kindAt_congr h, length_congr h]
  exact answer_eq_of_blamesOnly (blamesOnly_checkPoints _) (blamesOnly_checkPoints _) hok

/-- What a user is told of two checks, one after the other, is what is told of them. -/
lemma answer_bind (verdict verdict' : Except Rejection Unit) :
    answer (verdict >>= fun _ => verdict') = answer verdict >>= fun _ => answer verdict' := by
  cases verdict <;> rfl

/-- The answer for a stream depends on its kinds in front of its end marker. -/
theorem answer_check_congr (h : SameKinds tokens tokens') :
    answer (check tokens) = answer (check tokens') := by
  have hkinds := h.map_kind_beforeEnd
  have hparens : checkParens (beforeEnd tokens) = checkParens (beforeEnd tokens') :=
    parensFrom_congr hkinds 0 0
  unfold check
  dsimp only
  rw [answer_bind, answer_bind, answer_bind, answer_bind, hparens,
    answer_checkOperators_congr hkinds, answer_checkPoints_congr hkinds]

end Verdicts

end Validity

/-! ### Readings -/

namespace Tree

open Token

section Readings

variable {limit : Nat} {tokens tokens' : List Token} {place : Nat} {error : ParseError}

/-- Streams with the same kinds have their stray points at the same places. -/
lemma strayPoint_congr (h : tokens.map Token.kind = tokens'.map Token.kind) (place : Nat) :
    StrayPoint tokens place ↔ StrayPoint tokens' place := by
  unfold StrayPoint DecimalAt
  simp only [kindAt_congr h]

/-- Where the numbers are digit runs, an offence is one in every stream with the same kinds. -/
lemma Offence.of_kinds (hoffence : Offence limit tokens place error)
    (h : tokens.map Token.kind = tokens'.map Token.kind) (hdigits : DigitNumbers tokens) :
    Offence limit tokens' place error := by
  cases hoffence with
  | unmatchedClose hkind hnone =>
    exact .unmatchedClose ((kindAt_congr h _ _).mp hkind) (nesting_congr h place ▸ hnone)
  | tooDeep hkind hlimit =>
    exact .tooDeep ((kindAt_congr h _ _).mp hkind) (nesting_congr h place ▸ hlimit)
  | foreign hkind herror => exact .foreign ((kindAt_congr h _ _).mp hkind) herror
  | strayPoint hstray => exact .strayPoint ((strayPoint_congr h place).mp hstray)
  | noNumeral hkind _ hnone =>
    obtain ⟨value, hvalue⟩ := exists_double?_numeralText hdigits hkind
    exact absurd (hvalue.symm.trans hnone) (Option.some_ne_none value)

/-- Streams with the same kinds, and numbers that are digit runs, have the same offences. -/
lemma offence_congr (h : tokens.map Token.kind = tokens'.map Token.kind)
    (hdigits : DigitNumbers tokens) (hdigits' : DigitNumbers tokens') (place : Nat)
    (error : ParseError) : Offence limit tokens place error ↔ Offence limit tokens' place error :=
  ⟨fun hoffence => hoffence.of_kinds h hdigits, fun hoffence => hoffence.of_kinds h.symm hdigits'⟩

/-- Streams with the same kinds, and numbers that are digit runs, fail with the same errors. -/
lemma ofTokens_eq_error_congr (h : SameKinds tokens tokens')
    (hdigits : DigitNumbers (beforeEnd tokens)) (hdigits' : DigitNumbers (beforeEnd tokens'))
    (limit : Nat) (error : ParseError) :
    ofTokens limit tokens = .error error ↔ ofTokens limit tokens' = .error error := by
  have hkinds := h.map_kind_beforeEnd
  rw [(outcome_ofTokens limit tokens).eq_error_iff, (outcome_ofTokens limit tokens').eq_error_iff]
  simp only [offence_congr hkinds hdigits hdigits', nesting_congr hkinds, length_congr hkinds]

/-- The trees of streams with the same kinds, and numbers that are digit runs, are of one shape. -/
lemma shapes_eq_of_ofTokens {tree tree' : Tree} (h : SameKinds tokens tokens')
    (hdigits : DigitNumbers (beforeEnd tokens)) (htree : ofTokens limit tokens = .ok tree)
    (htree' : ofTokens limit tokens' = .ok tree') : tree.shapes = tree'.shapes := by
  obtain ⟨hspells, -⟩ := ofTokens_eq_ok_iff.mp htree
  obtain ⟨hspells', -⟩ := ofTokens_eq_ok_iff.mp htree'
  have hrenders : Renders tree'.children ((beforeEnd tokens).map Token.kind) := by
    rw [h.map_kind_beforeEnd]
    exact hspells'.renders
  obtain ⟨nodes, hnodes, hshapes, -⟩ := hrenders.exists_spells hdigits
  rw [shapes, hspells.unique hnodes]
  exact hshapes

end Readings

/-- Two streams with the same kinds in front of their end markers, whatever their literals are and
whatever follows, are told the same faults.  If the numbers in both are digit runs, then under every
limit they fail with the same error, or both give trees, which have the same paths and along each of
them a node of the same form with the same operator. -/
theorem kinds_decide {tokens tokens' : List Token} (h : SameKinds tokens tokens') :
    Validity.answer (Validity.check tokens) = Validity.answer (Validity.check tokens') ∧
    (DigitNumbers (tokens.takeWhile fun token => token.kind ≠ .endOfStream) →
      DigitNumbers (tokens'.takeWhile fun token => token.kind ≠ .endOfStream) → ∀ limit,
      (∃ error, ofTokens limit tokens = .error error ∧ ofTokens limit tokens' = .error error) ∨
      ∃ tree tree', ofTokens limit tokens = .ok tree ∧ ofTokens limit tokens' = .ok tree' ∧
        tree.paths = tree'.paths ∧ ∀ path ∈ tree.paths, ∃ node node',
          tree.nodeAt? path = some node ∧ tree'.nodeAt? path = some node' ∧
            node.form = node'.form ∧ node.operator? = node'.operator?) := by
  refine ⟨Validity.answer_check_congr h, fun hdigits hdigits' limit => ?_⟩
  have herrors := ofTokens_eq_error_congr h hdigits hdigits' limit
  cases hresult : ofTokens limit tokens with
  | error error => exact Or.inl ⟨error, rfl, (herrors error).mp hresult⟩
  | ok tree =>
    cases hresult' : ofTokens limit tokens' with
    | error error =>
      rw [(herrors error).mpr hresult'] at hresult
      cases hresult
    | ok tree' =>
      have hshapes := shapes_eq_of_ofTokens h hdigits hresult hresult'
      refine Or.inr ⟨tree, tree', rfl, rfl, paths_eq_of_shapes hshapes, fun path hpath => ?_⟩
      obtain ⟨node, hnode⟩ := Option.isSome_iff_exists.mp (mem_paths_iff.mp hpath)
      have hshape := shape_nodeAt? hshapes path
      rw [hnode, Option.map_some] at hshape
      obtain ⟨node', hnode', hsame⟩ := Option.map_eq_some_iff.mp hshape.symm
      exact ⟨node, node', hnode, hnode', Node.form_eq_of_shape hsame.symm,
        Node.operator?_eq_of_shape hsame.symm⟩

/-- A sum in parentheses: exchanging its numbers changes neither the answer nor the paths, and no
more do an end marker, a `)` and a misspelt number behind it. -/
theorem kinds_decide_sum :
    let one : Double := .ofCode false 0x3FF0000000000000
    let two : Double := .ofCode false 0x4000000000000000
    let tokens : List Token := [⟨.leftParen, "("⟩, ⟨.number, "1"⟩, ⟨.plus, "+"⟩, ⟨.number, "2"⟩,
      ⟨.rightParen, ")"⟩, endOfStream, ⟨.rightParen, ")"⟩, ⟨.number, "x"⟩]
    let tokens' : List Token := [⟨.leftParen, "("⟩, ⟨.number, "2"⟩, ⟨.plus, "+"⟩,
      ⟨.number, "1"⟩, ⟨.rightParen, ")"⟩]
    let tree : Tree := ⟨[.group [.literal one, .operator .plus, .literal two]]⟩
    let tree' : Tree := ⟨[.group [.literal two, .operator .plus, .literal one]]⟩
    SameKinds tokens tokens' ∧
      DigitNumbers (tokens.takeWhile fun token => token.kind ≠ .endOfStream) ∧
      DigitNumbers (tokens'.takeWhile fun token => token.kind ≠ .endOfStream) ∧
      Validity.answer (Validity.check tokens) = Validity.answer (Validity.check tokens') ∧
      ofTokens 1 tokens = .ok tree ∧ ofTokens 1 tokens' = .ok tree' ∧
      tree.paths = tree'.paths := by
  intro one two tokens tokens' tree tree'
  have hsame : SameKinds tokens tokens' := by decide
  have hscan : scan "(1+2)" = beforeEnd tokens := by decide +kernel
  have hscan' : scan "(2+1)" = beforeEnd tokens' := by decide +kernel
  have hdigits : DigitNumbers (beforeEnd tokens) := hscan ▸ digitNumbers_scan "(1+2)"
  have hdigits' : DigitNumbers (beforeEnd tokens') := hscan' ▸ digitNumbers_scan "(2+1)"
  have hone : Numeral.double? "1".toList = some one := by decide +kernel
  have htwo : Numeral.double? "2".toList = some two := by decide +kernel
  have hspells : Spells (beforeEnd tokens) tree.children :=
    .group (.whole hone (.operator rfl (.whole htwo .nil))) .nil
  have hspells' : Spells (beforeEnd tokens') tree'.children :=
    .group (.whole htwo (.operator rfl (.whole hone .nil))) .nil
  have hread : ofTokens 1 tokens = .ok tree :=
    ofTokens_eq_ok_iff.mpr ⟨hspells, by simp [tree, depth]⟩
  have hread' : ofTokens 1 tokens' = .ok tree' :=
    ofTokens_eq_ok_iff.mpr ⟨hspells', by simp [tree', depth]⟩
  obtain ⟨hanswer, hreadings⟩ := kinds_decide hsame
  refine ⟨hsame, hdigits, hdigits', hanswer, hread, hread', ?_⟩
  obtain ⟨error, herror, -⟩ | ⟨first, second, hfirst, hsecond, hpaths, -⟩ :=
    hreadings hdigits hdigits' 1
  · cases hread.symm.trans herror
  · obtain rfl := Except.ok.inj (hread.symm.trans hfirst)
    obtain rfl := Except.ok.inj (hread'.symm.trans hsecond)
    exact hpaths

end Tree

end ArithExpr
