import ArithExpr.Proofs.Token.Concatenation
import Mathlib.Order.Bounds.Defs

/-!
# Foreign characters

A foreign character is one that no expression contains.  Each is a token of its own,
so the tokens of a source show whether it holds one (`noForeign_scan_iff`), and the
first one in it is the first token that is a lexical error, located at the bytes in
front of it (`find?_foreign_append`).

A word that begins with a foreign character cannot stand in a text without one.  Where
the text in front of such a word is free of foreign characters, this is therefore the
first place at which the word occurs (`isLeast_occurs`).
-/

namespace ArithExpr.Token

/-- A character that is neither a digit nor blank, and whose kind the grammar has no place for. -/
def IsForeign (c : Char) : Prop :=
  c.isDigit = false ∧ Text.isBlank c = false ∧ (Kind.ofCharacter c).isLexicalError = true

instance : DecidablePred IsForeign := fun _ => inferInstanceAs (Decidable (_ ∧ _ ∧ _))

section Foreign

variable {front back word text : String} {c : Char}

/-- A foreign character is a token of its own. -/
lemma IsForeign.ofPiece?_eq (h : IsForeign c) :
    ofPiece? [c] = some ⟨.ofCharacter c, String.ofList [c]⟩ := by
  obtain ⟨hdigit, hblank, -⟩ := h
  simp [ofPiece?, hdigit, hblank]

/-- The tokens of a source hold no lexical error when its characters are not foreign. -/
theorem noForeign_scan_iff (source : String) :
    NoForeign (scan source) ↔ ∀ c ∈ source.toList, ¬ IsForeign c := by
  constructor
  · intro h c hc hforeign
    obtain ⟨before, behind, hsource⟩ := List.append_of_mem hc
    have hpieces : [c] ∈ pieces source.toList := by
      rw [hsource, pieces_append_cons hforeign.1]
      exact List.mem_append_right _ List.mem_cons_self
    have htoken : (⟨.ofCharacter c, String.ofList [c]⟩ : Token) ∈ scan source := by
      rw [scan_eq_filterMap]
      exact List.mem_filterMap.mpr ⟨[c], hpieces, hforeign.ofPiece?_eq⟩
    have herror := h _ htoken
    rw [hforeign.2.2] at herror
    cases herror
  · intro h token htoken
    obtain ⟨piece, hpiece, hofPiece⟩ := exists_piece_of_mem_scan htoken
    obtain ⟨c, rest, rfl, ⟨-, rfl⟩ | ⟨hdigit, hblank, rfl⟩⟩ := cases_of_ofPiece? hofPiece
    · rfl
    · have hc : c ∈ source.toList := by
        rw [← flatten_pieces source.toList]
        exact List.mem_flatten.mpr ⟨c :: rest, hpiece, List.mem_cons_self⟩
      by_contra herror
      exact h c hc ⟨hdigit, hblank, by simpa using herror⟩

/-! ### Where the first one is located -/

/-- Characters side by side take the bytes of both. -/
lemma pieceSize_append (chars chars' : List Char) :
    pieceSize (chars ++ chars') = pieceSize chars + pieceSize chars' := by
  induction chars with
  | nil => simp [pieceSize]
  | cons c rest ih =>
    have hstep (chars : List Char) : pieceSize (c :: chars) = c.utf8Size + pieceSize chars := rfl
    rw [List.cons_append, hstep, hstep, ih, Nat.add_assoc]

/-- The characters of a text take its bytes. -/
lemma pieceSize_toList (text : String) : pieceSize text.toList = text.utf8ByteSize := by
  have hchars (chars : List Char) : pieceSize chars = (String.ofList chars).utf8ByteSize := by
    induction chars with
    | nil => rfl
    | cons c rest ih =>
      rw [String.ofList_cons, String.utf8ByteSize_append, String.utf8ByteSize_singleton, ← ih]
      rfl
  rw [hchars, String.ofList_toList]

/-- Pieces behind others are located behind the bytes of these. -/
lemma locateFrom_append (offset : Nat) (ps ps' : List (List Char)) :
    locateFrom offset [] (ps ++ ps') =
      locateFrom offset [] ps ++ locateFrom (offset + pieceSize ps.flatten) [] ps' := by
  induction ps generalizing offset with
  | nil => rfl
  | cons piece rest ih =>
    rw [List.flatten_cons, pieceSize_append, ← Nat.add_assoc]
    rw [List.cons_append, locateFrom, locateFrom]
    cases ofPiece? piece with
    | none => exact ih _
    | some token =>
      simp only
      rw [locateFrom_eq_append, ih, locateFrom_eq_append _ [_] rest, List.append_assoc]

/-- A foreign character with none in front of it is the first lexical error that is found. -/
theorem find?_foreign_append (hfront : NoForeign (scan front)) (hc : IsForeign c)
    (back : List Char) :
    (scanLocated (front ++ String.ofList (c :: back))).find?
        (fun located => located.token.kind.isLexicalError) =
      some ⟨⟨.ofCharacter c, String.ofList [c]⟩, front.utf8ByteSize,
        front.utf8ByteSize + pieceSize [c]⟩ := by
  have hnone : (scanLocated front).find? (fun located => located.token.kind.isLexicalError) =
      none := by
    refine List.find?_eq_none.mpr fun located hlocated => ?_
    rw [hfront located.token (List.mem_map_of_mem hlocated)]
    exact Bool.false_ne_true
  have hscan : scanLocated (front ++ String.ofList (c :: back)) =
      scanLocated front ++
        locateFrom front.utf8ByteSize [] ([c] :: pieces back) := by
    rw [scanLocated, String.toList_append, String.toList_ofList, pieces_append_cons hc.1,
      locateFrom_append, Nat.zero_add, ← pieceSize_toList front, scanLocated, flatten_pieces]
  have hfirst : locateFrom front.utf8ByteSize [] ([c] :: pieces back) =
      ⟨⟨.ofCharacter c, String.ofList [c]⟩, front.utf8ByteSize,
        front.utf8ByteSize + pieceSize [c]⟩ ::
          locateFrom (front.utf8ByteSize + pieceSize [c]) [] (pieces back) := by
    rw [locateFrom, hc.ofPiece?_eq]
    simp only
    rw [locateFrom_eq_append]
    rfl
  rw [hscan, List.find?_append, hnone, Option.none_or, hfirst]
  exact List.find?_cons_of_pos hc.2.2

/-! ### Words in a text -/

/-- A word stands in a text behind so many bytes. -/
def Occurs (word text : String) (offset : Nat) : Prop :=
  ∃ front back, text = front ++ word ++ back ∧ front.utf8ByteSize = offset

/-- A text is free of foreign characters up to some place at which a word stands. -/
def FreeUpTo (word text : String) : Prop :=
  ∃ front back, text = front ++ word ++ back ∧ NoForeign (scan front)

/-- A text that is free up to a word stays so when something is put behind it. -/
lemma FreeUpTo.append (h : FreeUpTo word text) (back : String) : FreeUpTo word (text ++ back) := by
  obtain ⟨front, behind, rfl, hfront⟩ := h
  exact ⟨front, behind ++ back, by rw [String.append_assoc], hfront⟩

/-- A text that is free up to a word stays so when something without foreign characters is put in
front of it. -/
lemma FreeUpTo.prepend (h : FreeUpTo word text) (hfront : NoForeign (scan front)) :
    FreeUpTo word (front ++ text) := by
  obtain ⟨within, behind, rfl, hwithin⟩ := h
  refine ⟨front ++ within, behind, by simp only [String.append_assoc], ?_⟩
  rw [noForeign_scan_iff] at hfront hwithin ⊢
  rw [String.toList_append]
  exact List.forall_mem_append.mpr ⟨hfront, hwithin⟩

/-- A word alone has nothing in front of it. -/
lemma freeUpTo_self (word : String) : FreeUpTo word word :=
  ⟨"", "", by simp, List.forall_mem_nil _⟩

/-- Where the first text of a row is free up to a word, the row is. -/
lemma freeUpTo_intercalate_head (h : FreeUpTo word text)
    (rest : List String) : FreeUpTo word (" ".intercalate (text :: rest)) := by
  cases rest with
  | nil => simpa using h
  | cons next rest =>
    rw [String.intercalate_cons_cons, String.append_assoc]
    exact h.append _

/-- Where the first text of a row has no foreign character and the others are free up to a word,
the row is. -/
lemma freeUpTo_intercalate_tail {rest : List String}
    (htext : NoForeign (scan text)) (h : FreeUpTo word (" ".intercalate rest)) :
    FreeUpTo word (" ".intercalate (text :: rest)) := by
  cases rest with
  | nil =>
    have hempty := h.prepend htext
    simpa using hempty
  | cons next rest =>
    have hspace : NoForeign (scan " ") := List.forall_mem_nil _
    rw [String.intercalate_cons_cons, String.append_assoc]
    exact (h.prepend hspace).prepend htext

/-- Behind a text without foreign characters, a word that begins with one occurs for the first
time. -/
theorem isLeast_occurs (hfront : NoForeign (scan front)) (hc : IsForeign c)
    (hword : word.toList.head? = some c) :
    IsLeast {offset | Occurs word (front ++ word ++ back) offset} front.utf8ByteSize := by
  refine ⟨⟨front, back, rfl, rfl⟩, ?_⟩
  rintro _ ⟨front', back', htext, rfl⟩
  have hlists := congrArg String.toList htext
  simp only [String.toList_append, List.append_assoc] at hlists
  rw [← pieceSize_toList, ← pieceSize_toList]
  rcases List.append_eq_append_iff.mp hlists with ⟨between, hfront', -⟩ | ⟨between, hsplit, hrest⟩
  · rw [hfront', pieceSize_append]
    exact Nat.le_add_right _ _
  · cases between with
    | nil => rw [hsplit, List.append_nil]
    | cons d between =>
      -- the other place would put the beginning of the word into the text in front
      obtain ⟨behind, hchars⟩ := List.head?_eq_some_iff.mp hword
      rw [hchars, List.cons_append, List.cons_append] at hrest
      obtain ⟨rfl, -⟩ := List.cons.inj hrest
      have hmem : c ∈ front.toList := by
        rw [hsplit]
        exact List.mem_append_right _ List.mem_cons_self
      exact absurd hc ((noForeign_scan_iff front).mp hfront c hmem)

end Foreign

end ArithExpr.Token
