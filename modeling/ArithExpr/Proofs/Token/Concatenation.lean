import ArithExpr.Proofs.Token.Scanned

/-!
# Sources side by side

Two sources that stand side by side are scanned apart unless a run of digits crosses
the border between them (`scan_append`).  A blank or a character of its own keeps its
neighbours apart, so a text of words with spaces between them has the tokens of the
words, in order (`scan_intercalate`).
-/

namespace ArithExpr.Token

/-- No run of digits crosses the border between two texts. -/
def Apart (front back : List Char) : Prop :=
  ∀ c ∈ front.getLast?, ∀ d ∈ back.head?, (c.isDigit && d.isDigit) = false

section Pieces

variable {front back : List Char} {c : Char}

/-- Texts that are apart are cut into pieces apart. -/
lemma pieces_append (h : Apart front back) :
    pieces (front ++ back) = pieces front ++ pieces back :=
  List.splitBy_append h

/-- A text is apart from one that does not begin with a digit. -/
lemma apart_of_head (h : ∀ d ∈ back.head?, d.isDigit = false) : Apart front back := by
  intro c _ d hd
  rw [h d hd, Bool.and_false]

/-- A text that does not end with a digit is apart from any other. -/
lemma apart_of_getLast (h : ∀ c ∈ front.getLast?, c.isDigit = false) : Apart front back := by
  intro c hc d _
  rw [h c hc, Bool.false_and]

/-- Digits alone are one piece. -/
lemma pieces_digits {digits : List Char} (h : Text.IsDigitRun digits) :
    pieces digits = [digits] := by
  refine List.splitBy_of_isChain h.1 ?_
  have hall := h.2
  clear h
  induction digits with
  | nil => exact List.isChain_nil
  | cons c rest ih =>
    cases rest with
    | nil => exact List.isChain_singleton c
    | cons d rest =>
      obtain ⟨hc, hrest⟩ := List.forall_mem_cons.mp hall
      obtain ⟨hd, -⟩ := List.forall_mem_cons.mp hrest
      exact List.isChain_cons_cons.mpr ⟨by rw [hc, hd]; rfl, ih hrest⟩

/-- A character that is no digit is a piece of its own, whatever stands around it. -/
lemma pieces_append_cons (h : c.isDigit = false) :
    pieces (front ++ c :: back) = pieces front ++ [c] :: pieces back := by
  have hback : Apart [c] back := by
    refine apart_of_getLast fun d hd => ?_
    obtain rfl : c = d := by simpa using hd
    exact h
  have hfront : Apart front ([c] ++ back) := by
    refine apart_of_head fun d hd => ?_
    obtain rfl : c = d := by simpa using hd
    exact h
  calc pieces (front ++ c :: back)
      = pieces front ++ pieces ([c] ++ back) := pieces_append hfront
    _ = pieces front ++ (pieces [c] ++ pieces back) := by rw [pieces_append hback]
    _ = pieces front ++ [c] :: pieces back := rfl

end Pieces

/-! ### Tokens -/

section Scan

variable {front back : String}

/-- The tokens of a source are those of its pieces. -/
lemma scan_eq_filterMap (source : String) :
    scan source = (pieces source.toList).filterMap ofPiece? :=
  map_token_locateFrom 0 _

/-- Sources that are apart are scanned apart. -/
theorem scan_append (h : Apart front.toList back.toList) :
    scan (front ++ back) = scan front ++ scan back := by
  rw [scan_eq_filterMap, String.toList_append, pieces_append h, List.filterMap_append,
    ← scan_eq_filterMap, ← scan_eq_filterMap]

/-- A character that is no digit keeps what stands on its sides apart, and its own token, if it has
one, comes between theirs. -/
lemma scan_append_singleton_append {c : Char} (h : c.isDigit = false) (front back : String) :
    scan (front ++ String.singleton c ++ back) =
      scan front ++ ((ofPiece? [c]).toList ++ scan back) := by
  have hback : ([c] :: pieces back.toList).filterMap ofPiece? =
      (ofPiece? [c]).toList ++ (pieces back.toList).filterMap ofPiece? := by
    cases hc : ofPiece? [c] with
    | none => exact List.filterMap_cons_none hc
    | some token => exact List.filterMap_cons_some hc
  simp only [scan_eq_filterMap, String.toList_append, String.toList_singleton]
  rw [List.append_assoc, List.singleton_append, pieces_append_cons h, List.filterMap_append, hback]

/-- No digit is blank. -/
lemma isDigit_eq_false_of_isBlank {c : Char} (h : Text.isBlank c = true) : c.isDigit = false := by
  by_contra hdigit
  have hcode : 48 ≤ c.toNat ∧ c.toNat ≤ 57 := by
    simpa [Char.isDigit, UInt32.le_iff_toNat_le] using hdigit
  simp only [Text.isBlank, Text.blankRanges, List.any_cons, List.any_nil, Bool.or_false,
    Bool.or_eq_true, Bool.and_eq_true, decide_eq_true_eq] at h
  omega

/-- A blank keeps what stands on its sides apart and leaves no token. -/
lemma scan_append_blank_append {c : Char} (h : Text.isBlank c = true) (front back : String) :
    scan (front ++ String.singleton c ++ back) = scan front ++ scan back := by
  have hdigit := isDigit_eq_false_of_isBlank h
  have hpiece : ofPiece? [c] = none := by simp [ofPiece?, hdigit, h]
  rw [scan_append_singleton_append hdigit, hpiece]
  rfl

/-- A space keeps what stands on its sides apart and leaves no token. -/
lemma scan_append_space_append (front back : String) :
    scan (front ++ " " ++ back) = scan front ++ scan back := by
  have hspace : " " = String.singleton ' ' := by decide
  rw [hspace]
  exact scan_append_blank_append (by decide) front back

/-- Words with a space between neighbours have the tokens of the words. -/
theorem scan_intercalate (texts : List String) :
    scan (" ".intercalate texts) = texts.flatMap scan := by
  induction texts with
  | nil => rfl
  | cons text rest ih =>
    cases rest with
    | nil => simp
    | cons next rest =>
      rw [String.intercalate_cons_cons, scan_append_space_append, ih]
      exact List.flatMap_cons.symm

/-- A minus sign in front of a text is a token of its own. -/
lemma scan_minus_append (text : String) : scan ("-" ++ text) = ⟨.minus, "-"⟩ :: scan text := by
  have hminus : Apart "-".toList text.toList :=
    apart_of_getLast fun c hc => by
      obtain rfl : '-' = c := by simpa using hc
      rfl
  rw [scan_append hminus]
  rfl

/-- A text in parentheses has their tokens around its own. -/
theorem scan_parenthesized (text : String) :
    scan ("(" ++ text ++ ")") =
      ⟨.leftParen, "("⟩ :: (scan text ++ [⟨.rightParen, ")"⟩]) := by
  have hopen : Apart "(".toList text.toList :=
    apart_of_getLast fun c hc => by
      obtain rfl : '(' = c := by simpa using hc
      rfl
  have hclose : Apart ("(" ++ text).toList ")".toList :=
    apart_of_head fun c hc => by
      obtain rfl : ')' = c := by simpa using hc
      rfl
  rw [scan_append hclose, scan_append hopen]
  rfl

/-- Digits are scanned as a number. -/
lemma scan_digits {digits : List Char} (h : Text.IsDigitRun digits) :
    scan (String.ofList digits) = [⟨.number, String.ofList digits⟩] := by
  rw [scan_eq_filterMap, String.toList_ofList, pieces_digits h]
  obtain ⟨c, rest, rfl⟩ := List.exists_cons_of_ne_nil h.1
  have hpiece : ofPiece? (c :: rest) = some ⟨.number, String.ofList (c :: rest)⟩ :=
    if_pos (h.2 c List.mem_cons_self)
  rw [List.filterMap_cons_some hpiece]
  rfl

/-- Digits, a point and digits are scanned as a number, a point and a number. -/
lemma scan_decimal {whole fraction : List Char} (hwhole : Text.IsDigitRun whole)
    (hfraction : Text.IsDigitRun fraction) :
    scan (String.ofList (whole ++ '.' :: fraction)) =
      [⟨.number, String.ofList whole⟩, ⟨.point, "."⟩, ⟨.number, String.ofList fraction⟩] := by
  have hfront := scan_digits hwhole
  have hback := scan_digits hfraction
  rw [scan_eq_filterMap, String.toList_ofList] at hfront hback
  have hpoint : ofPiece? ['.'] = some ⟨.point, "."⟩ := rfl
  rw [scan_eq_filterMap, String.toList_ofList, pieces_append_cons (by decide),
    List.filterMap_append, List.filterMap_cons_some hpoint, hfront, hback]
  rfl

end Scan

end ArithExpr.Token
