import ArithExpr.Proofs.Token.Foreign

/-!
# The tokens partition the source

Every character of a source that is not blank is in the range of exactly one token, and
no blank is in any (`isPartition_scanLocated`).  `IsPartition` says what this means for a
list of located tokens without a word on pieces: where the ranges lie, which characters
they take and what kind each of them has.

The proof goes through the pieces.  A token is that of one of them and lies at the bytes
behind the pieces in front of it (`mem_locateFrom_iff`), and a run of digits that is a
piece is maximal because two pieces side by side never meet in two digits
(`apart_flatten_of_pieces`).
-/

namespace ArithExpr.Token

/-! ### What a partition is -/

/-- The symbols of the grammar, each with its kind. -/
def symbols : List (Char × Kind) :=
  [('(', .leftParen), (')', .rightParen), ('+', .plus), ('-', .minus), ('*', .multiply),
    ('/', .divide), ('.', .point)]

/-- A printable character of ASCII other than the space, by its code point. -/
def InGraphicRange (c : Char) : Prop :=
  0x21 ≤ c.toNat ∧ c.toNat ≤ 0x7E

/-- The kind of a character that is a token of its own. -/
inductive Classified : Char → Kind → Prop
  | symbol {c : Char} {kind : Kind} (hsymbol : (c, kind) ∈ symbols) : Classified c kind
  | unknown {c : Char} (hgraphic : InGraphicRange c) (hsymbol : ∀ kind, (c, kind) ∉ symbols) :
      Classified c .unknown
  | illegal {c : Char} (hgraphic : ¬ InGraphicRange c) : Classified c .illegal

/-- A source is what stands in front of a token, its literal and what stands behind it, and the
range of the token is that of its literal. -/
structure Surrounds (source front back : String) (located : Located) : Prop where
  source_eq : source = front ++ located.token.literal ++ back
  start_eq : located.start = front.utf8ByteSize
  stop_eq : located.stop = located.start + located.token.literal.utf8ByteSize

/-- Tokens at ranges of a source that divide it among them, but for its blanks. -/
structure IsPartition (source : String) (found : List Located) : Prop where
  /-- A range begins and ends between characters, and the literal is what stands there. -/
  surrounded : ∀ located ∈ found, ∃ front back, Surrounds source front back located
  nonempty : ∀ located ∈ found, located.start < located.stop
  ordered : found.Pairwise fun earlier later => earlier.stop ≤ later.start
  /-- A character that is not blank is in a range. -/
  covered : ∀ front c back, source = front ++ String.singleton c ++ back →
    Text.isBlank c = false →
      ∃ located ∈ found, located.start ≤ front.utf8ByteSize ∧
        front.utf8ByteSize + c.utf8Size ≤ located.stop
  /-- A blank is outside of every range. -/
  blank : ∀ front c back, source = front ++ String.singleton c ++ back →
    Text.isBlank c = true →
      ∀ located ∈ found, front.utf8ByteSize + c.utf8Size ≤ located.start ∨
        located.stop ≤ front.utf8ByteSize
  number_iff : ∀ located ∈ found,
    located.token.kind = .number ↔ Text.IsDigitRun located.token.literal.toList
  /-- The run of digits that a number is cannot be made longer. -/
  maximal : ∀ located ∈ found, located.token.kind = .number →
    ∀ front back, Surrounds source front back located →
      (∀ c ∈ front.toList.getLast?, c.isDigit = false) ∧
        ∀ c ∈ back.toList.head?, c.isDigit = false
  single : ∀ located ∈ found, located.token.kind ≠ .number →
    ∃ c, located.token.literal = String.singleton c ∧ Classified c located.token.kind
  no_end : ∀ located ∈ found, located.token.kind ≠ .endOfStream

/-! ### Kinds -/

section Kinds

variable {c : Char} {kind : Kind}

/-- The graphic characters are a range of code points. -/
lemma isGraphic_iff : isGraphic c = true ↔ InGraphicRange c := by
  simp only [isGraphic, Bool.and_eq_true, decide_eq_true_eq]
  exact Iff.rfl

/-- The operator table has the symbols of the grammar and takes any other character as unknown. -/
lemma mem_symbols_iff : (c, kind) ∈ symbols ↔ Kind.ofSymbol c = kind ∧ kind ≠ .unknown := by
  constructor
  · intro h
    simp only [symbols, List.mem_cons, Prod.mk.injEq, List.not_mem_nil, or_false] at h
    rcases h with ⟨rfl, rfl⟩ | ⟨rfl, rfl⟩ | ⟨rfl, rfl⟩ | ⟨rfl, rfl⟩ | ⟨rfl, rfl⟩ | ⟨rfl, rfl⟩ |
      ⟨rfl, rfl⟩ <;> decide
  · rintro ⟨rfl, hknown⟩
    unfold Kind.ofSymbol at hknown ⊢
    split at hknown <;> first | decide | exact absurd rfl hknown

/-- What a character is read as is its kind. -/
lemma classified_ofCharacter (c : Char) : Classified c (.ofCharacter c) := by
  by_cases hgraphic : isGraphic c = true
  · rw [Kind.ofCharacter, if_pos hgraphic]
    by_cases hknown : Kind.ofSymbol c = .unknown
    · rw [hknown]
      refine .unknown (isGraphic_iff.mp hgraphic) fun kind hmem => ?_
      obtain ⟨rfl, hne⟩ := mem_symbols_iff.mp hmem
      exact hne hknown
    · exact .symbol (mem_symbols_iff.mpr ⟨rfl, hknown⟩)
  · rw [Kind.ofCharacter, if_neg hgraphic]
    exact .illegal fun h => hgraphic (isGraphic_iff.mpr h)

end Kinds

/-! ### Pieces and where they lie -/

section Pieces

variable {source piece : List Char} {before behind : List (List Char)} {token : Token}

/-- A piece is a run of digits or a character that is none. -/
lemma isDigitRun_or_singleton_of_mem_pieces (h : piece ∈ pieces source) :
    Text.IsDigitRun piece ∨ ∃ c, piece = [c] ∧ c.isDigit = false := by
  obtain ⟨c, rest, rfl⟩ := List.exists_cons_of_ne_nil (List.ne_nil_of_mem_splitBy h)
  by_cases hc : c.isDigit = true
  · exact Or.inl ⟨List.cons_ne_nil c rest, fun d hd => isDigit_of_mem_pieces h hc hd⟩
  · rw [Bool.not_eq_true] at hc
    have hchain := List.isChain_of_mem_splitBy h
    cases rest with
    | nil => exact Or.inr ⟨c, rfl, hc⟩
    | cons d rest =>
      obtain ⟨hboth, -⟩ := List.isChain_cons_cons.mp hchain
      rw [hc, Bool.false_and] at hboth
      cases hboth

/-- Wherever the pieces of a source are divided, no run of digits crosses the border. -/
lemma apart_flatten_of_pieces (h : pieces source = before ++ behind) :
    Apart before.flatten behind.flatten := by
  rcases List.eq_nil_or_concat before with rfl | ⟨front, left, rfl⟩
  · intro c hc
    cases hc
  cases behind with
  | nil =>
    intro c _ d hd
    cases hd
  | cons right back =>
    have hchain := List.isChain_getLast_head_splitBy
      (fun left right => left.isDigit && right.isDigit) source
    rw [← pieces, h] at hchain
    obtain ⟨-, -, hborder⟩ := List.isChain_append.mp hchain
    obtain ⟨hleft, hright, hdigits⟩ := hborder left (by simp) right (by simp)
    intro c hc d hd
    have hc' : left.getLast hleft = c := by
      simpa [List.getLast?_append, List.getLast?_eq_some_getLast hleft] using hc
    have hd' : right.head hright = d := by
      simpa [List.head?_append, List.head?_eq_some_head hright] using hd
    rw [← hc', ← hd']
    exact hdigits

/-- The literal of a piece is its text. -/
lemma literal_eq_of_ofPiece? (h : ofPiece? piece = some token) :
    token.literal = String.ofList piece := by
  obtain ⟨c, rest, rfl, ⟨-, rfl⟩ | ⟨-, -, rfl⟩⟩ := cases_of_ofPiece? h <;> rfl

/-- A piece takes at least one byte. -/
lemma pieceSize_pos (h : piece ≠ []) : 0 < pieceSize piece := by
  obtain ⟨c, rest, rfl⟩ := List.exists_cons_of_ne_nil h
  have hstep : pieceSize (c :: rest) = c.utf8Size + pieceSize rest := rfl
  rw [hstep]
  exact Nat.add_pos_left c.utf8Size_pos _

/-- Where a text is divided behind so many bytes, there is only one way to do it. -/
lemma eq_of_pieceSize_eq {front front' back back' : List Char}
    (h : front ++ back = front' ++ back') (hsize : pieceSize front = pieceSize front') :
    front = front' := by
  rcases List.append_eq_append_iff.mp h with ⟨between, hfront, -⟩ | ⟨between, hfront, -⟩
  all_goals
    rw [hfront, pieceSize_append] at hsize
    have hnil : between = [] := by
      by_contra hne
      have := pieceSize_pos hne
      omega
    rw [hfront, hnil, List.append_nil]

end Pieces

/-! ### Where the tokens are -/

/-- A token is that of a piece and lies behind the bytes passed before and those of other pieces. -/
structure LiesAt (offset : Nat) (before : List (List Char)) (piece : List Char)
    (located : Located) : Prop where
  token_eq : ofPiece? piece = some located.token
  start_eq : located.start = offset + pieceSize before.flatten
  stop_eq : located.stop = located.start + pieceSize piece

section Located

variable {source : String} {located : Located} {before behind : List (List Char)}
  {piece : List Char}

/-- The tokens that are located in pieces are those of the pieces, each at its bytes. -/
lemma mem_locateFrom_iff {offset : Nat} {ps : List (List Char)} :
    located ∈ locateFrom offset [] ps ↔
      ∃ before piece behind, ps = before ++ piece :: behind ∧
        LiesAt offset before piece located := by
  constructor
  · intro h
    induction ps generalizing offset with
    | nil => cases h
    | cons first rest ih =>
      have hlater (hrest : located ∈ locateFrom (offset + pieceSize first) [] rest) :
          ∃ before piece behind, first :: rest = before ++ piece :: behind ∧
            LiesAt offset before piece located := by
        obtain ⟨before, piece, behind, rfl, htoken, hstart, hstop⟩ := ih hrest
        refine ⟨first :: before, piece, behind, rfl, htoken, ?_, hstop⟩
        rw [hstart, List.flatten_cons, pieceSize_append, Nat.add_assoc]
      rw [locateFrom] at h
      cases hfirst : ofPiece? first with
      | none =>
        rw [hfirst] at h
        exact hlater h
      | some token =>
        rw [hfirst] at h
        simp only at h
        rw [locateFrom_eq_append] at h
        rcases List.mem_append.mp h with hhere | hrest
        · obtain rfl := List.mem_singleton.mp hhere
          exact ⟨[], first, rest, rfl, hfirst, rfl, rfl⟩
        · exact hlater hrest
  · rintro ⟨before, piece, behind, rfl, htoken, hstart, hstop⟩
    rw [locateFrom_append, locateFrom, htoken]
    simp only
    rw [locateFrom_eq_append _ [_]]
    refine List.mem_append_right _ (List.mem_append_left _ (List.mem_singleton.mpr ?_))
    cases located
    rw [← hstart, ← hstop]

/-- The ranges of the tokens that are located in pieces follow each other. -/
lemma pairwise_locateFrom (offset : Nat) (ps : List (List Char)) :
    (locateFrom offset [] ps).Pairwise fun earlier later => earlier.stop ≤ later.start := by
  induction ps generalizing offset with
  | nil => exact List.Pairwise.nil
  | cons piece rest ih =>
    rw [locateFrom]
    cases ofPiece? piece with
    | none => exact ih _
    | some token =>
      simp only
      rw [locateFrom_eq_append]
      refine List.pairwise_cons.mpr ⟨fun later hlater => ?_, ih _⟩
      obtain ⟨before, _, _, -, hlies⟩ := mem_locateFrom_iff.mp hlater
      rw [hlies.start_eq]
      exact Nat.le_add_right _ _

/-- A source is its pieces, side by side. -/
lemma toList_eq_of_pieces (h : pieces source.toList = before ++ piece :: behind) :
    source.toList = before.flatten ++ (piece ++ behind.flatten) := by
  have hflatten := flatten_pieces source.toList
  rw [h, List.flatten_append, List.flatten_cons] at hflatten
  exact hflatten.symm

/-- The text of a piece and the texts on its sides. -/
lemma LiesAt.surrounds (h : LiesAt 0 before piece located)
    (hpieces : pieces source.toList = before ++ piece :: behind) :
    Surrounds source (String.ofList before.flatten) (String.ofList behind.flatten) located := by
  have hliteral := literal_eq_of_ofPiece? h.token_eq
  refine ⟨?_, ?_, ?_⟩
  · rw [← String.toList_inj, toList_eq_of_pieces hpieces, hliteral]
    simp only [String.toList_append, String.toList_ofList, List.append_assoc]
  · rw [h.start_eq, Nat.zero_add, ← pieceSize_toList, String.toList_ofList]
  · rw [h.stop_eq, hliteral, ← pieceSize_toList, String.toList_ofList]

/-- What stands around a token is determined by its range. -/
lemma Surrounds.unique {front front' back back' : String} (h : Surrounds source front back located)
    (h' : Surrounds source front' back' located) : front = front' ∧ back = back' := by
  have hsource := h.source_eq.symm.trans h'.source_eq
  have hlists := congrArg String.toList hsource
  simp only [String.toList_append, List.append_assoc] at hlists
  have hsize : pieceSize front.toList = pieceSize front'.toList := by
    rw [pieceSize_toList, pieceSize_toList, ← h.start_eq, ← h'.start_eq]
  have hfront := eq_of_pieceSize_eq hlists hsize
  rw [hfront, List.append_cancel_left_eq, List.append_cancel_left_eq] at hlists
  exact ⟨String.toList_inj.mp hfront, String.toList_inj.mp hlists⟩

/-- A run of digits that is a piece has no digit at its sides. -/
lemma digit_sides_of_pieces {source : List Char}
    (hpieces : pieces source = before ++ piece :: behind) (hdigits : Text.IsDigitRun piece) :
    (∀ c ∈ before.flatten.getLast?, c.isDigit = false) ∧
      ∀ c ∈ behind.flatten.head?, c.isDigit = false := by
  obtain ⟨hne, hall⟩ := hdigits
  constructor
  · intro c hc
    have hhead : piece.head hne ∈ (piece :: behind).flatten.head? := by
      simp [List.head?_append, List.head?_eq_some_head hne]
    have hborder := apart_flatten_of_pieces hpieces c hc _ hhead
    rwa [hall _ (List.head_mem hne), Bool.and_true] at hborder
  · intro c hc
    have hlast : piece.getLast hne ∈ (before ++ [piece]).flatten.getLast? := by
      simp [List.getLast?_append, List.getLast?_eq_some_getLast hne]
    rw [List.append_cons] at hpieces
    have hborder := apart_flatten_of_pieces hpieces _ hlast c hc
    rwa [hall _ (List.getLast_mem hne), Bool.true_and] at hborder

/-- A character of a text is in one of its pieces. -/
lemma exists_piece_around {c : Char} {front back source : List Char}
    (h : source = front ++ c :: back) :
    ∃ before left right behind, pieces source = before ++ (left ++ c :: right) :: behind ∧
      front = before.flatten ++ left := by
  have hflatten := flatten_pieces source
  rw [h] at hflatten
  rcases List.flatten_eq_append_iff.mp hflatten with ⟨before, behind, hpieces, hfront, hback⟩ |
    ⟨before, left, d, right, behind, hpieces, hfront, hback⟩
  · obtain ⟨empty, right, rest, rfl, hempty, -⟩ := List.flatten_eq_cons_iff.mp hback.symm
    refine ⟨before ++ empty, [], right, rest, ?_, ?_⟩
    · rw [h, hpieces, List.append_assoc, List.nil_append]
    · rw [List.flatten_append, List.flatten_eq_nil_iff.mpr hempty, List.append_nil,
        List.append_nil, hfront]
  · obtain ⟨rfl, -⟩ := List.cons.inj hback
    rw [h]
    exact ⟨before, left, right, behind, hpieces, hfront⟩

/-- A character of a source takes bytes of one of its pieces. -/
lemma exists_piece_covering {c : Char} {front back : String}
    (h : source = front ++ String.singleton c ++ back) :
    ∃ before piece behind, pieces source.toList = before ++ piece :: behind ∧ c ∈ piece ∧
      pieceSize before.flatten ≤ front.utf8ByteSize ∧
      front.utf8ByteSize + c.utf8Size ≤ pieceSize before.flatten + pieceSize piece := by
  have hsource : source.toList = front.toList ++ c :: back.toList := by
    rw [h, String.toList_append, String.toList_append, String.toList_singleton,
      List.append_assoc, List.singleton_append]
  obtain ⟨before, left, right, behind, hpieces, hfront⟩ := exists_piece_around hsource
  have hsize : front.utf8ByteSize = pieceSize before.flatten + pieceSize left := by
    rw [← pieceSize_toList, hfront, pieceSize_append]
  have hpiece : pieceSize (left ++ c :: right) =
      pieceSize left + (c.utf8Size + pieceSize right) := pieceSize_append left (c :: right)
  refine ⟨before, left ++ c :: right, behind, hpieces, by simp, ?_, ?_⟩ <;> omega

/-- The bytes of pieces with one of them between the others. -/
lemma pieceSize_flatten_append_cons :
    pieceSize (before ++ piece :: behind).flatten =
      pieceSize before.flatten + pieceSize piece + pieceSize behind.flatten := by
  rw [List.flatten_append, List.flatten_cons, pieceSize_append, pieceSize_append, Nat.add_assoc]

/-- Of two pieces of a source, one lies behind the other unless they are the same. -/
lemma eq_or_pieceSize_le {before' behind' : List (List Char)} {piece' : List Char}
    (h : before ++ piece :: behind = before' ++ piece' :: behind') :
    piece = piece' ∨
      pieceSize before.flatten + pieceSize piece ≤ pieceSize before'.flatten ∨
      pieceSize before'.flatten + pieceSize piece' ≤ pieceSize before.flatten := by
  rcases List.append_eq_append_iff.mp h with ⟨between, rfl, htail⟩ | ⟨between, rfl, htail⟩
  · cases between with
    | nil => exact Or.inl (List.cons.inj htail).1
    | cons first between =>
      obtain ⟨rfl, -⟩ := List.cons.inj htail
      rw [pieceSize_flatten_append_cons]
      exact Or.inr (Or.inl (Nat.le_add_right _ _))
  · cases between with
    | nil => exact Or.inl (List.cons.inj htail).1.symm
    | cons first between =>
      obtain ⟨rfl, -⟩ := List.cons.inj htail
      rw [pieceSize_flatten_append_cons]
      exact Or.inr (Or.inr (Nat.le_add_right _ _))

end Located

/-! ### What the token of a piece is -/

section Kind

variable {source piece : List Char} {token : Token} {c : Char}

/-- A piece has no token when the character in it is blank. -/
lemma ofPiece?_eq_none_iff (hpiece : piece ∈ pieces source) (hc : c ∈ piece) :
    ofPiece? piece = none ↔ Text.isBlank c = true := by
  rcases isDigitRun_or_singleton_of_mem_pieces hpiece with ⟨hne, hall⟩ | ⟨d, rfl, hdigit⟩
  · obtain ⟨d, rest, rfl⟩ := List.exists_cons_of_ne_nil hne
    have hsome : ofPiece? (d :: rest) ≠ none := by
      rw [ofPiece?, if_pos (hall d List.mem_cons_self)]
      exact Option.some_ne_none _
    have hblank : Text.isBlank c ≠ true := fun hblank => by
      have hcontra := hall c hc
      rw [isDigit_eq_false_of_isBlank hblank] at hcontra
      cases hcontra
    exact iff_of_false hsome hblank
  · obtain rfl := List.mem_singleton.mp hc
    simp [ofPiece?, hdigit]

/-- The token of a piece is a number when the piece is a run of digits, and else it is a character
with the kind of this. -/
lemma kind_of_ofPiece? (hpiece : piece ∈ pieces source) (h : ofPiece? piece = some token) :
    (token.kind = .number ∧ Text.IsDigitRun piece) ∨
      ∃ c, piece = [c] ∧ c.isDigit = false ∧ token.kind = .ofCharacter c := by
  obtain ⟨c, rest, rfl, ⟨hdigit, rfl⟩ | ⟨hdigit, -, rfl⟩⟩ := cases_of_ofPiece? h
  · exact Or.inl ⟨rfl, List.cons_ne_nil c rest, fun d hd => isDigit_of_mem_pieces hpiece hdigit hd⟩
  · rcases isDigitRun_or_singleton_of_mem_pieces hpiece with ⟨-, hall⟩ | ⟨d, hsingle, -⟩
    · rw [hall c List.mem_cons_self] at hdigit
      cases hdigit
    · obtain ⟨rfl, rfl⟩ := List.cons.inj hsingle
      exact Or.inr ⟨c, rfl, hdigit, rfl⟩

end Kind

/-! ### The partition -/

section Partition

variable {source front back : String} {located : Located} {c : Char}

/-- A token of a source is that of one of its pieces and lies there. -/
lemma exists_liesAt_of_mem (h : located ∈ scanLocated source) :
    ∃ before piece behind, pieces source.toList = before ++ piece :: behind ∧
      piece ∈ pieces source.toList ∧ LiesAt 0 before piece located := by
  obtain ⟨before, piece, behind, hpieces, hlies⟩ := mem_locateFrom_iff.mp h
  refine ⟨before, piece, behind, hpieces, ?_, hlies⟩
  rw [hpieces]
  exact List.mem_append_right _ List.mem_cons_self

/-- A character that is not blank is in the range of a token. -/
lemma exists_range_of_not_blank (hsource : source = front ++ String.singleton c ++ back)
    (hblank : Text.isBlank c = false) :
    ∃ located ∈ scanLocated source, located.start ≤ front.utf8ByteSize ∧
      front.utf8ByteSize + c.utf8Size ≤ located.stop := by
  obtain ⟨before, piece, behind, hpieces, hc, hstart, hstop⟩ := exists_piece_covering hsource
  have hpiece : piece ∈ pieces source.toList := by simp [hpieces]
  cases htoken : ofPiece? piece with
  | none =>
    rw [(ofPiece?_eq_none_iff hpiece hc).mp htoken] at hblank
    cases hblank
  | some token =>
    let here : Located :=
      ⟨token, pieceSize before.flatten, pieceSize before.flatten + pieceSize piece⟩
    have hlies : LiesAt 0 before piece here := ⟨htoken, (Nat.zero_add _).symm, rfl⟩
    exact ⟨here, mem_locateFrom_iff.mpr ⟨before, piece, behind, hpieces, hlies⟩, hstart, hstop⟩

/-- A blank is outside of the range of any token. -/
lemma range_apart_of_blank (hsource : source = front ++ String.singleton c ++ back)
    (hblank : Text.isBlank c = true) (h : located ∈ scanLocated source) :
    front.utf8ByteSize + c.utf8Size ≤ located.start ∨ located.stop ≤ front.utf8ByteSize := by
  obtain ⟨before, piece, behind, hpieces, hc, hstart, hstop⟩ := exists_piece_covering hsource
  obtain ⟨before', piece', behind', hpieces', hpiece', htoken, hstart', hstop'⟩ :=
    exists_liesAt_of_mem h
  rcases eq_or_pieceSize_le (hpieces.symm.trans hpieces') with rfl | hfront | hbehind
  · rw [(ofPiece?_eq_none_iff hpiece' hc).mpr hblank] at htoken
    cases htoken
  · exact Or.inl (by omega)
  · exact Or.inr (by omega)

/-- The numbers among the tokens are those whose literal is a run of digits. -/
lemma kind_eq_number_iff (h : located ∈ scanLocated source) :
    located.token.kind = .number ↔ Text.IsDigitRun located.token.literal.toList := by
  obtain ⟨before, piece, behind, -, hpiece, hlies⟩ := exists_liesAt_of_mem h
  rw [literal_eq_of_ofPiece? hlies.token_eq, String.toList_ofList]
  rcases kind_of_ofPiece? hpiece hlies.token_eq with ⟨hkind, hdigits⟩ | ⟨c, rfl, hdigit, hkind⟩
  · exact iff_of_true hkind hdigits
  · refine iff_of_false ?_ fun hdigits => ?_
    · rw [hkind]
      exact (ofCharacter_ne c).1
    · rw [hdigits.2 c List.mem_cons_self] at hdigit
      cases hdigit

/-- The run of digits that a number is has no digit at its sides. -/
lemma digit_sides_of_number (h : located ∈ scanLocated source)
    (hnumber : located.token.kind = .number) (hsurrounds : Surrounds source front back located) :
    (∀ c ∈ front.toList.getLast?, c.isDigit = false) ∧
      ∀ c ∈ back.toList.head?, c.isDigit = false := by
  obtain ⟨before, piece, behind, hpieces, hpiece, hlies⟩ := exists_liesAt_of_mem h
  obtain ⟨rfl, rfl⟩ := hsurrounds.unique (hlies.surrounds hpieces)
  rw [String.toList_ofList, String.toList_ofList]
  rcases kind_of_ofPiece? hpiece hlies.token_eq with ⟨-, hdigits⟩ | ⟨c, -, -, hkind⟩
  · exact digit_sides_of_pieces hpieces hdigits
  · exact absurd (hkind.symm.trans hnumber) (ofCharacter_ne c).1

/-- A token that is no number is a single character with the kind of this. -/
lemma exists_classified (h : located ∈ scanLocated source)
    (hnumber : located.token.kind ≠ .number) :
    ∃ c, located.token.literal = String.singleton c ∧ Classified c located.token.kind := by
  obtain ⟨before, piece, behind, -, hpiece, hlies⟩ := exists_liesAt_of_mem h
  rcases kind_of_ofPiece? hpiece hlies.token_eq with ⟨hkind, -⟩ | ⟨c, rfl, -, hkind⟩
  · exact absurd hkind hnumber
  · refine ⟨c, literal_eq_of_ofPiece? hlies.token_eq, ?_⟩
    rw [hkind]
    exact classified_ofCharacter c

/-- The tokens of a source partition it: their ranges follow each other, take every character but
the blanks, and each token is a maximal run of digits or a single character. -/
theorem isPartition_scanLocated (source : String) : IsPartition source (scanLocated source) where
  surrounded located h := by
    obtain ⟨before, piece, behind, hpieces, -, hlies⟩ := exists_liesAt_of_mem h
    exact ⟨_, _, hlies.surrounds hpieces⟩
  nonempty located h := by
    obtain ⟨before, piece, behind, -, hpiece, hlies⟩ := exists_liesAt_of_mem h
    rw [hlies.stop_eq]
    exact Nat.lt_add_of_pos_right (pieceSize_pos (List.ne_nil_of_mem_splitBy hpiece))
  ordered := pairwise_locateFrom 0 _
  covered _ _ _ hsource hblank := exists_range_of_not_blank hsource hblank
  blank _ _ _ hsource hblank _ h := range_apart_of_blank hsource hblank h
  number_iff _ h := kind_eq_number_iff h
  maximal _ h hnumber _ _ hsurrounds := digit_sides_of_number h hnumber hsurrounds
  single _ h hnumber := exists_classified h hnumber
  no_end located h := by
    have hscan : located.token ∈ scan source := List.mem_map_of_mem h
    rw [← beforeEnd_scan source] at hscan
    exact kind_ne_endOfStream_of_mem hscan

/-- Ranges count bytes: the last character takes two of them. -/
example : scanLocated "12 +\u00E9" =
    [⟨⟨.number, "12"⟩, 0, 2⟩, ⟨⟨.plus, "+"⟩, 3, 4⟩, ⟨⟨.illegal, "\u00E9"⟩, 4, 6⟩] := by
  decide +kernel

end Partition

end ArithExpr.Token
