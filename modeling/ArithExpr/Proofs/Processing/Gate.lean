import ArithExpr.Proofs.Processing.Stages
import ArithExpr.Proofs.Token.Partition

/-!
# Characters that are turned away

Before anything else is looked at, a source with a character that no expression contains
is turned away.  The stage sees located tokens; here its answer is read off the characters
of the source: it names the first character that is no blank, no digit and no symbol of
the grammar, with the bytes in front of it (`value_lex_eq_lexical_iff`).

No other stage fails in this way, so the answer of this one can be seen in the report and
in the result of a parse, whatever rules the rest of the source breaks.
-/

namespace ArithExpr

namespace Token

/-- A character that no expression contains: no blank, no digit and no symbol. -/
def IsOutside (c : Char) : Prop :=
  Text.isBlank c = false ∧ c.isDigit = false ∧ c ∉ symbols.map Prod.fst

/-- A source is what stands in front of the first character that no expression contains, this
character and what stands behind it; the character is a token at the bytes in front of it, of a kind
that tells the printable characters of ASCII from others. -/
structure FirstOutside (source front : String) (c : Char) (back : String) (token : Token)
    (offset : Nat) : Prop where
  source_eq : source = front ++ String.singleton c ++ back
  outside : IsOutside c
  first : ∀ d ∈ front.toList, ¬ IsOutside d
  literal_eq : token.literal = String.singleton c
  offset_eq : offset = front.utf8ByteSize
  unknown : InGraphicRange c → token.kind = .unknown
  illegal : ¬ InGraphicRange c → token.kind = .illegal

section Outside

variable {source front back : String} {c : Char} {token : Token} {offset : Nat} {kind : Kind}

/-- The symbols are printable and have kinds that the grammar has a place for. -/
lemma of_mem_symbols (h : (c, kind) ∈ symbols) :
    InGraphicRange c ∧ kind.isLexicalError = false := by
  have hall : ∀ entry ∈ symbols,
      (0x21 ≤ entry.1.toNat ∧ entry.1.toNat ≤ 0x7E) ∧ entry.2.isLexicalError = false := by
    decide
  exact hall (c, kind) h

/-- A character with a kind of its own is a lexical error when it is no symbol. -/
lemma Classified.isLexicalError_iff (h : Classified c kind) :
    kind.isLexicalError = true ↔ c ∉ symbols.map Prod.fst := by
  have hsymbol : c ∈ symbols.map Prod.fst ↔ ∃ kind, (c, kind) ∈ symbols := by simp
  rw [hsymbol]
  cases h with
  | symbol hmem =>
    rw [(of_mem_symbols hmem).2]
    exact ⟨nofun, fun hnone => absurd ⟨kind, hmem⟩ hnone⟩
  | unknown _ hnone => exact ⟨fun _ ⟨kind, hmem⟩ => hnone kind hmem, fun _ => rfl⟩
  | illegal hgraphic =>
    exact ⟨fun _ ⟨kind, hmem⟩ => hgraphic (of_mem_symbols hmem).1, fun _ => rfl⟩

/-- A character that is a lexical error is unknown if it is printable, and else illegal. -/
lemma Classified.eq_of_isLexicalError (h : Classified c kind)
    (herror : kind.isLexicalError = true) :
    (InGraphicRange c → kind = .unknown) ∧ (¬ InGraphicRange c → kind = .illegal) := by
  cases h with
  | symbol hmem =>
    rw [(of_mem_symbols hmem).2] at herror
    cases herror
  | unknown hgraphic => exact ⟨fun _ => rfl, fun hnot => absurd hgraphic hnot⟩
  | illegal hgraphic => exact ⟨fun hin => absurd hin hgraphic, fun _ => rfl⟩

/-- The foreign characters are those that no expression contains. -/
lemma isForeign_iff_isOutside : IsForeign c ↔ IsOutside c := by
  rw [IsForeign, IsOutside, (classified_ofCharacter c).isLexicalError_iff]
  tauto

/-- What a character that no expression contains is read as tells whether it is printable. -/
lemma IsOutside.ofCharacter_eq (h : IsOutside c) :
    (InGraphicRange c → Kind.ofCharacter c = .unknown) ∧
      (¬ InGraphicRange c → Kind.ofCharacter c = .illegal) :=
  (classified_ofCharacter c).eq_of_isLexicalError (isForeign_iff_isOutside.mpr h).2.2

/-- The token of the first character that no expression contains is the one it is read as. -/
lemma FirstOutside.token_eq (h : FirstOutside source front c back token offset) :
    token = ⟨.ofCharacter c, String.singleton c⟩ := by
  obtain ⟨hunknown, hillegal⟩ := h.outside.ofCharacter_eq
  have hkind : token.kind = .ofCharacter c := by
    by_cases hgraphic : InGraphicRange c
    · rw [h.unknown hgraphic, hunknown hgraphic]
    · rw [h.illegal hgraphic, hillegal hgraphic]
  rw [← hkind, ← h.literal_eq]

/-- A source with characters that no expression contains has a first one. -/
lemma exists_firstOutside (h : ∃ c ∈ source.toList, IsOutside c) :
    ∃ token offset front c back, FirstOutside source front c back token offset := by
  obtain ⟨d, hd, hsome⟩ := h
  obtain ⟨c, hfind⟩ : ∃ c, source.toList.find? (fun c => decide (IsForeign c)) = some c := by
    rw [← Option.isSome_iff_exists, List.find?_isSome]
    exact ⟨d, hd, decide_eq_true (isForeign_iff_isOutside.mpr hsome)⟩
  obtain ⟨hc, front, back, hsource, hfront⟩ := List.find?_eq_some_iff_append.mp hfind
  have houtside : IsOutside c := isForeign_iff_isOutside.mp (of_decide_eq_true hc)
  refine ⟨⟨.ofCharacter c, String.singleton c⟩, (String.ofList front).utf8ByteSize,
    String.ofList front, c, String.ofList back, ?_, houtside, ?_, rfl, rfl,
    houtside.ofCharacter_eq.1, houtside.ofCharacter_eq.2⟩
  · rw [← String.toList_inj, hsource]
    simp
  · intro e he
    rw [String.toList_ofList] at he
    simpa [isForeign_iff_isOutside] using hfront e he

/-- A source has a first character that no expression contains when it has one at all. -/
lemma exists_firstOutside_iff :
    (∃ token offset front c back, FirstOutside source front c back token offset) ↔
      ∃ c ∈ source.toList, IsOutside c := by
  constructor
  · rintro ⟨token, offset, front, c, back, hfirst⟩
    exact ⟨c, by simp [hfirst.source_eq], hfirst.outside⟩
  · exact exists_firstOutside

end Outside

end Token

namespace Processing

open Token

section Gate

variable {settings : Settings} {source front back : String} {c : Char} {token : Token}
  {offset : Nat}

/-- A source is turned away at its first character that no expression contains. -/
lemma value_lex_of_firstOutside (h : FirstOutside source front c back token offset) :
    (lex source).value = .error (.lexical token offset) := by
  have hfront : NoForeign (scan front) := by
    rw [noForeign_scan_iff]
    intro d hd hforeign
    exact h.first d hd (isForeign_iff_isOutside.mp hforeign)
  have hsource : source = front ++ String.ofList (c :: back.toList) := by
    rw [h.source_eq, ← String.toList_inj]
    simp
  have hfind := find?_foreign_append hfront (isForeign_iff_isOutside.mpr h.outside) back.toList
  rw [lex, hsource, hfind]
  simp only [h.token_eq, h.offset_eq]
  rfl

/-- A source is turned away for its first character that no expression contains, and for nothing
else. -/
theorem value_lex_eq_lexical_iff :
    (lex source).value = .error (.lexical token offset) ↔
      ∃ front c back, FirstOutside source front c back token offset := by
  constructor
  · intro hlex
    have houtside : ∃ c ∈ source.toList, IsOutside c := by
      by_contra hnone
      have hforeign : NoForeign (scan source) := by
        rw [noForeign_scan_iff]
        intro c hc hforeign
        exact hnone ⟨c, hc, isForeign_iff_isOutside.mp hforeign⟩
      rw [value_lex_eq_ok_iff.mpr ⟨hforeign, rfl⟩] at hlex
      cases hlex
    obtain ⟨token', offset', front, c, back, hfirst⟩ := exists_firstOutside houtside
    have hsame := hlex.symm.trans (value_lex_of_firstOutside hfirst)
    obtain ⟨rfl, rfl⟩ := ProcessingError.lexical.inj (Except.error.inj hsame)
    exact ⟨front, c, back, hfirst⟩
  · rintro ⟨front, c, back, hfirst⟩
    exact value_lex_of_firstOutside hfirst

/-- The report on a source fails for a character only where the source is turned away for it. -/
lemma value_check_eq_lexical_iff :
    (check settings source).value = .error (.lexical token offset) ↔
      (lex source).value = .error (.lexical token offset) := by
  rw [value_check]
  apply bind_eq_error_iff
  intro tokens
  exact nofun

/-- A parse fails for a character only where the source is turned away for it. -/
lemma value_parse_eq_lexical_iff :
    (parse settings source).value = .error (.lexical token offset) ↔
      (lex source).value = .error (.lexical token offset) := by
  rw [value_parse]
  apply bind_eq_error_iff
  intro tokens
  dsimp only
  split
  · cases Tree.ofTokens (Tree.clampDepth settings.maxDepth) tokens with
    | error error => exact nofun
    | ok tree => exact nofun
  · exact nofun

end Gate

/-- A source is turned away by the report and by a parse alike when it contains a character that is
no blank, no digit and no symbol of the grammar, whatever else is wrong with it.  The error names
the first such character, with the bytes in front of it, as unknown if it is a printable character
of ASCII and as illegal if it is not. -/
theorem lexical_iff_firstOutside (settings : Settings) (source : String) :
    (∀ token offset, (check settings source).value = .error (.lexical token offset) ↔
      ∃ front c back, FirstOutside source front c back token offset) ∧
    (∀ token offset, (parse settings source).value = .error (.lexical token offset) ↔
      ∃ front c back, FirstOutside source front c back token offset) ∧
    ((∃ token offset, (check settings source).value = .error (.lexical token offset)) ↔
      ∃ c ∈ source.toList, IsOutside c) ∧
    ((∃ token offset, (parse settings source).value = .error (.lexical token offset)) ↔
      ∃ c ∈ source.toList, IsOutside c) := by
  have hcheck (token : Token) (offset : Nat) :
      (check settings source).value = .error (.lexical token offset) ↔
        ∃ front c back, FirstOutside source front c back token offset := by
    rw [value_check_eq_lexical_iff, value_lex_eq_lexical_iff]
  have hparse (token : Token) (offset : Nat) :
      (parse settings source).value = .error (.lexical token offset) ↔
        ∃ front c back, FirstOutside source front c back token offset := by
    rw [value_parse_eq_lexical_iff, value_lex_eq_lexical_iff]
  refine ⟨hcheck, hparse, ?_, ?_⟩
  · simp only [hcheck, exists_firstOutside_iff]
  · simp only [hparse, exists_firstOutside_iff]

end Processing

end ArithExpr
