import ArithExpr.Processing
import ArithExpr.Proofs.Results
import ArithExpr.Proofs.Tree.Rendering
import ArithExpr.Proofs.Tree.Residue

/-!
# The accepted language

A source has a tree when its characters, its tokens and its groups pass three stages
of their own.  Together they accept exactly the sources whose kinds of tokens render
an admissible tree within the limit (`parse_eq_ok_iff_renders`): the rules on
parentheses and points hold for whatever the reader accepts, the operator rule is
admissibility, and the numbers of a source are digit runs, so that no literal fails.
-/

namespace ArithExpr.Processing

open Token ArithExpr.Tree

variable {settings : Settings} {source : String}

/-! ### One stage after the other -/

/-- A source gives its tokens when none of them is foreign. -/
lemma value_lex_eq_ok_iff {tokens : List Token} :
    (lex source).value = .ok tokens ↔ NoForeign (scan source) ∧ tokens = scan source := by
  have hforeign : NoForeign (scan source) ↔
      ∀ located ∈ scanLocated source, located.token.kind.isLexicalError = false := by
    rw [NoForeign, scan, List.forall_mem_map]
  rw [hforeign, lex]
  cases hfind : (scanLocated source).find? fun located => located.token.kind.isLexicalError with
  | none =>
    have hnone := List.find?_eq_none.mp hfind
    simp only [Logged.silent, Except.ok.injEq]
    refine ⟨?_, fun h => h.2.symm⟩
    rintro rfl
    exact ⟨fun located hmem => by simpa using hnone located hmem, rfl⟩
  | some located =>
    have hlocated := List.find?_some hfind
    simp only [reduceCtorEq, false_iff, not_and]
    intro hnone
    rw [hnone located (List.mem_of_find?_eq_some hfind)] at hlocated
    cases hlocated

/-- The verdict on a stream is that of the rules. -/
lemma value_judge (tokens : List Token) : (judge tokens).value = Validity.check tokens := by
  rw [judge]
  cases Validity.check tokens <;> rfl

/-- A verdict has nothing to report when it is a success. -/
lemma valid_ofVerdict_iff (messages : Messages) (verdict : Except Validity.Rejection Unit) :
    (Report.ofVerdict messages verdict).valid = true ↔ verdict = .ok () := by
  cases verdict <;> simp [Report.ofVerdict, Report.valid]

/-- A source has a tree when its characters, the rules and the reader let it pass. -/
theorem value_parse_eq_ok_iff {tree : Tree} :
    (parse settings source).value = .ok tree ↔
      NoForeign (scan source) ∧ Validity.check (scan source) = .ok () ∧
        ofTokens (clampDepth settings.maxDepth) (scan source) = .ok tree := by
  rw [parse, Logged.value_andThen_eq_ok_iff]
  simp only [value_lex_eq_ok_iff, Logged.value_andThen_eq_ok_iff, Logged.map, value_judge,
    valid_ofVerdict_iff, mapError_eq_ok_iff]
  constructor
  · rintro ⟨_, ⟨hforeign, rfl⟩, ⟨⟩, hverdict, htree⟩
    split at hverdict
    · next hvalid => exact ⟨hforeign, hvalid, htree⟩
    · cases hverdict
  · rintro ⟨hforeign, hvalid, htree⟩
    exact ⟨scan source, ⟨hforeign, rfl⟩, (), if_pos hvalid, htree⟩

/-! ### Trees and renderings -/

/-- The tree of a source is admissible, and the kinds of its tokens render it. -/
lemma renders_of_parse {tree : Tree} (h : (parse settings source).value = .ok tree) :
    tree.Admissible ∧ tree.depth ≤ clampDepth settings.maxDepth ∧
      Renders tree.children ((scan source).map Token.kind) := by
  obtain ⟨-, hvalid, htree⟩ := value_parse_eq_ok_iff.mp h
  obtain ⟨-, hoperators, -⟩ := (Validity.check_eq_ok_iff _).mp hvalid
  obtain ⟨hspells, hdepth⟩ := ofTokens_eq_ok_iff.mp htree
  rw [beforeEnd_scan] at hoperators hspells
  have hrenders := hspells.renders
  refine ⟨?_, hdepth, hrenders⟩
  exact hrenders.operatorRule_iff.mp ((Validity.checkOperators_eq_ok_iff _).mp hoperators)

/-- A source whose kinds render an admissible tree keeps the rules. -/
lemma check_scan_of_renders {rendered : Tree} (hadmissible : rendered.Admissible)
    (hrenders : Renders rendered.children ((scan source).map Token.kind)) :
    Validity.check (scan source) = .ok () := by
  obtain ⟨nodes, hspells, -, -⟩ := hrenders.exists_spells (digitNumbers_scan source)
  -- under a limit that is great enough the reader accepts the source
  have htree : ofTokens (Node.depthOfAll nodes) (scan source) = .ok ⟨nodes⟩ := by
    refine ofTokens_eq_ok_iff.mpr ⟨?_, Nat.le_refl _⟩
    rwa [beforeEnd_scan]
  obtain ⟨hparens, hpoints⟩ := rules_of_ofTokens htree
  have hoperators : Validity.checkOperators (beforeEnd (scan source)) = .ok () := by
    rw [beforeEnd_scan, Validity.checkOperators_eq_ok_iff]
    exact hrenders.operatorRule_iff.mpr hadmissible
  exact (Validity.check_eq_ok_iff _).mpr ⟨hparens, hoperators, hpoints⟩

/-- A source whose kinds render an admissible tree within the limit has a tree. -/
lemma exists_parse_of_renders {rendered : Tree} (hforeign : NoForeign (scan source))
    (hadmissible : rendered.Admissible) (hdepth : rendered.depth ≤ clampDepth settings.maxDepth)
    (hrenders : Renders rendered.children ((scan source).map Token.kind)) :
    ∃ tree, (parse settings source).value = .ok tree := by
  obtain ⟨nodes, hspells, -, hnodes⟩ := hrenders.exists_spells (digitNumbers_scan source)
  have htree : ofTokens (clampDepth settings.maxDepth) (scan source) = .ok ⟨nodes⟩ := by
    refine ofTokens_eq_ok_iff.mpr ⟨?_, ?_⟩
    · rwa [beforeEnd_scan]
    · exact hnodes.trans_le hdepth
  have hvalid := check_scan_of_renders hadmissible hrenders
  exact ⟨⟨nodes⟩, value_parse_eq_ok_iff.mpr ⟨hforeign, hvalid, htree⟩⟩

/-- Whatever a source's kinds render has the shape of the source's tree. -/
lemma shapes_eq_of_renders {tree rendered : Tree} (h : (parse settings source).value = .ok tree)
    (hrenders : Renders rendered.children ((scan source).map Token.kind)) :
    tree.shapes = rendered.shapes := by
  obtain ⟨-, -, htree⟩ := value_parse_eq_ok_iff.mp h
  obtain ⟨hspells, -⟩ := ofTokens_eq_ok_iff.mp htree
  rw [beforeEnd_scan] at hspells
  obtain ⟨nodes, hspells', hshapes, -⟩ := hrenders.exists_spells (digitNumbers_scan source)
  rw [shapes, hspells.unique hspells', hshapes, shapes]

/-- The sources that have a tree are those without a foreign character whose kinds of tokens render
an admissible tree within the limit, and the tree has the shape of any tree they render. -/
theorem parse_eq_ok_iff_renders (settings : Settings) (source : String) :
    ((∃ tree, (parse settings source).value = .ok tree) ↔
      NoForeign (scan source) ∧ ∃ rendered : Tree, rendered.Admissible ∧
        rendered.depth ≤ min settings.maxDepth 1024 ∧
        Renders rendered.children ((scan source).map Token.kind)) ∧
      ∀ tree rendered : Tree, (parse settings source).value = .ok tree →
        Renders rendered.children ((scan source).map Token.kind) →
          tree.shapes = rendered.shapes := by
  refine ⟨⟨?_, ?_⟩, fun tree rendered => shapes_eq_of_renders⟩
  · rintro ⟨tree, h⟩
    exact ⟨(value_parse_eq_ok_iff.mp h).1, tree, renders_of_parse h⟩
  · rintro ⟨hforeign, rendered, hadmissible, hdepth, hrenders⟩
    exact exists_parse_of_renders hforeign hadmissible hdepth hrenders

end ArithExpr.Processing
