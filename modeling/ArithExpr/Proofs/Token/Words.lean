import ArithExpr.Proofs.Token.Partition
import ArithExpr.Token.Symbols

/-!
# Tokens written as words

A stream can be written with a space between the literals of neighbours.  Each literal
of a scanned stream is a word: it is not empty and has no blank in it.  Two readers can
therefore be put on such a text.

The scan of a source finds the same tokens again (`scan_spaced_scan`), because each word
alone is scanned as the token it was the literal of.  The notation of words knows fewer
kinds of tokens than a scan and one that a scan never finds, the end marker; what it
makes of a token is `asWord` (`ofSymbols_spaced_scan`), and without foreign characters
this is the token itself.
-/

namespace ArithExpr.Token

/-! ### Tokens and their literals -/

/-- A token that a scan can find: a run of digits, or a character that is neither a digit nor
blank. -/
inductive Scanned : Token → Prop
  | number {digits : String} (hdigits : Text.IsDigitRun digits.toList) :
      Scanned ⟨.number, digits⟩
  | character {c : Char} (hdigit : c.isDigit = false) (hblank : Text.isBlank c = false) :
      Scanned ⟨.ofCharacter c, String.ofList [c]⟩

/-- The token that the notation of words has for a literal: a dollar sign is the end marker there,
and it has no illegal tokens. -/
def asWord (token : Token) : Token :=
  if token.literal = "$" then endOfStream
  else if token.kind = .illegal then ⟨.unknown, token.literal⟩
  else token

section Scanned

variable {source : String} {token : Token}

/-- A token of a source is one that a scan can find. -/
theorem scanned_of_mem_scan (h : token ∈ scan source) : Scanned token := by
  obtain ⟨piece, hpiece, hofPiece⟩ := exists_piece_of_mem_scan h
  have hliteral := literal_eq_of_ofPiece? hofPiece
  obtain ⟨kind, literal⟩ := token
  obtain rfl : literal = String.ofList piece := hliteral
  obtain ⟨rfl, hdigits⟩ | ⟨c, rfl, hdigit, rfl⟩ := kind_of_ofPiece? hpiece hofPiece
  · exact .number (by rwa [String.toList_ofList])
  · have hblank : Text.isBlank c = false := by
      refine Bool.eq_false_iff.mpr fun hblank => ?_
      rw [(ofPiece?_eq_none_iff hpiece (List.mem_singleton_self c)).mpr hblank] at hofPiece
      cases hofPiece
    exact .character hdigit hblank

/-- The literal of a token that a scan can find is scanned as the token. -/
lemma Scanned.scan_literal (h : Scanned token) : scan token.literal = [token] := by
  cases h with
  | @number digits hdigits =>
    have hscan := scan_digits hdigits
    rwa [String.ofList_toList] at hscan
  | @character c hdigit hblank =>
    have hpiece : ofPiece? [c] = some ⟨.ofCharacter c, String.ofList [c]⟩ := by
      simp [ofPiece?, hdigit, hblank]
    have hpieces : pieces [c] = [[c]] := rfl
    rw [scan_eq_filterMap, String.toList_ofList, hpieces, List.filterMap_cons_some hpiece]
    rfl

/-- The tokens of a source are scanned again from their literals with a space between
neighbours. -/
theorem scan_spaced_scan (source : String) : scan (spaced (scan source)) = scan source := by
  have hagain : ∀ token ∈ scan source, scan token.literal = [token] :=
    fun token htoken => (scanned_of_mem_scan htoken).scan_literal
  calc scan (spaced (scan source))
      = (scan source).flatMap fun token => scan token.literal := by
        rw [spaced, scan_intercalate, List.flatMap_map]
    _ = (scan source).flatMap fun token => [token] := List.flatMap_congr hagain
    _ = scan source := by simp

/-- The notation of words has the same token for a literal, unless this is a foreign character. -/
lemma Scanned.asWord_eq_self (h : Scanned token) (herror : token.kind.isLexicalError = false) :
    token.asWord = token := by
  have hillegal : token.kind ≠ .illegal := by
    intro hkind
    rw [hkind] at herror
    cases herror
  have hdollar : token.literal ≠ "$" := by
    -- a dollar sign alone is scanned as an unknown token
    intro hliteral
    have hscan := h.scan_literal
    rw [hliteral] at hscan
    obtain rfl : (⟨.unknown, "$"⟩ : Token) = token := List.head_eq_of_cons_eq hscan
    cases herror
  rw [asWord, if_neg hdollar, if_neg hillegal]

end Scanned

/-! ### Words -/

/-- A text that is read as one word. -/
def IsWord (word : List Char) : Prop :=
  word ≠ [] ∧ ∀ c ∈ word, Text.isBlank c = false

section Words

variable {token : Token} {word front back : List Char}

/-- Where a blank and a word meet, the text can be read apart. -/
lemma words_append
    (h : ∀ c ∈ front.getLast?, ∀ d ∈ back.head?, (Text.isBlank c == Text.isBlank d) = false) :
    words (front ++ back) = words front ++ words back := by
  rw [words, List.splitBy_append h, List.filter_append]
  rfl

/-- A word is read as itself. -/
lemma words_word (h : IsWord word) : words word = [word] := by
  obtain ⟨c, rest, rfl⟩ := List.exists_cons_of_ne_nil h.1
  have hchain : (c :: rest).IsChain fun left right => Text.isBlank left == Text.isBlank right := by
    refine List.Pairwise.isChain (List.pairwise_of_forall_mem_list fun d hd e he => ?_)
    rw [h.2 d hd, h.2 e he]
    rfl
  have hfirst : Text.isBlank c = false := h.2 c List.mem_cons_self
  rw [words, List.splitBy_of_isChain h.1 hchain]
  simp [hfirst]

/-- A word in front of a space is read before what begins behind the space. -/
lemma words_word_space (h : IsWord word) (hback : ∀ c ∈ back.head?, Text.isBlank c = false) :
    words (word ++ [' '] ++ back) = word :: words back := by
  have hspace : words [' '] = [] := by decide
  have hword : words (word ++ [' ']) = words word ++ words [' '] := by
    refine words_append fun c hc d hd => ?_
    obtain rfl : ' ' = d := by simpa using hd
    rw [h.2 c (List.mem_of_mem_getLast? hc)]
    rfl
  have hwhole : words (word ++ [' '] ++ back) = words (word ++ [' ']) ++ words back := by
    refine words_append fun c hc d hd => ?_
    obtain rfl : ' ' = c := by simpa using hc
    rw [hback d hd]
    rfl
  rw [hwhole, hword, words_word h, hspace]
  rfl

/-- Words with a space between neighbours are read as the words. -/
theorem words_intercalate {texts : List (List Char)} (h : ∀ word ∈ texts, IsWord word) :
    words ([' '].intercalate texts) = texts := by
  induction texts with
  | nil => rfl
  | cons word rest ih =>
    obtain ⟨hword, hrest⟩ := List.forall_mem_cons.mp h
    cases rest with
    | nil => rw [List.intercalate_singleton, words_word hword]
    | cons next rest =>
      have hnext : IsWord next := hrest next List.mem_cons_self
      rw [List.intercalate_cons_cons, words_word_space hword, ih hrest]
      intro c hc
      obtain ⟨first, tail, rfl⟩ := List.exists_cons_of_ne_nil hnext.1
      obtain rfl : first = c := by
        cases rest <;> simpa using hc
      exact hnext.2 _ List.mem_cons_self

/-- The literal of a token of a source is a word. -/
lemma Scanned.isWord (h : Scanned token) : IsWord token.literal.toList := by
  cases h with
  | number hdigits =>
    refine ⟨hdigits.1, fun c hc => Bool.eq_false_iff.mpr fun hblank => ?_⟩
    have hdigit := isDigit_eq_false_of_isBlank hblank
    rw [hdigits.2 c hc] at hdigit
    cases hdigit
  | character hdigit hblank =>
    rw [String.toList_ofList]
    exact ⟨List.cons_ne_nil _ _, List.forall_mem_singleton.mpr hblank⟩

/-- The operator table takes no character as illegal. -/
lemma ofSymbol_ne_illegal (c : Char) : Kind.ofSymbol c ≠ .illegal := by
  unfold Kind.ofSymbol
  split <;> decide

/-- A character that is not printable is not in the table. -/
lemma ofSymbol_of_not_isGraphic {c : Char} (h : ¬ isGraphic c = true) :
    Kind.ofSymbol c = .unknown := by
  unfold Kind.ofSymbol
  split <;> first | rfl | exact absurd rfl h

/-- As a word, the literal of a token of a source is read as `asWord` says. -/
lemma Scanned.ofWord_literal (h : Scanned token) :
    ofWord token.literal.toList = token.asWord := by
  cases h with
  | @number digits hdigits =>
    have hdollar : digits.toList ≠ ['$'] := by
      intro hliteral
      have hdigit := hdigits.2 '$' (by rw [hliteral]; exact List.mem_singleton_self _)
      cases hdigit
    have hliteral : digits ≠ "$" := fun hliteral => hdollar (congrArg String.toList hliteral)
    have hkind : (⟨.number, digits⟩ : Token).kind ≠ .illegal := Kind.noConfusion
    rw [asWord, if_neg hliteral, if_neg hkind]
    unfold ofWord
    rw [if_neg hdollar, if_pos (List.all_eq_true.mpr hdigits.2), String.ofList_toList]
  | @character c hdigit hblank =>
    rw [String.toList_ofList]
    by_cases hdollar : c = '$'
    · subst hdollar
      rfl
    · have hword : ofWord [c] = ⟨.ofSymbol c, String.ofList [c]⟩ := by
        simp [ofWord, hdollar, hdigit]
      have hliteral : String.ofList [c] ≠ "$" := by
        intro hliteral
        exact hdollar (by simpa using congrArg String.toList hliteral)
      rw [hword, asWord, if_neg hliteral, Kind.ofCharacter]
      by_cases hgraphic : isGraphic c = true
      · rw [if_pos hgraphic, if_neg (ofSymbol_ne_illegal c)]
      · rw [if_neg hgraphic, if_pos rfl, ofSymbol_of_not_isGraphic hgraphic]

/-- The tokens of a source, written with a space between neighbours and read as words, are those
that the notation of words has for them. -/
theorem ofSymbols_spaced_scan (source : String) :
    ofSymbols (spaced (scan source)) = (scan source).map asWord := by
  have hwords : ∀ word ∈ ((scan source).map literal).map String.toList, IsWord word := by
    intro word hword
    simp only [List.map_map, List.mem_map, Function.comp_apply] at hword
    obtain ⟨token, htoken, rfl⟩ := hword
    exact (scanned_of_mem_scan htoken).isWord
  have hspace : " ".toList = [' '] := rfl
  rw [ofSymbols, spaced, String.toList_intercalate, hspace, words_intercalate hwords, List.map_map,
    List.map_map]
  exact List.map_congr_left fun token htoken => (scanned_of_mem_scan htoken).ofWord_literal

end Words

end ArithExpr.Token
