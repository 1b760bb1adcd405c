import ArithExpr.Proofs.Number.DigitRun
import ArithExpr.Token.Scan
import Mathlib.Data.List.SplitBy

/-!
# Streams that come from a text

A stream that was scanned has more to it than one made by hand: its numbers are runs
of digits (`digitNumbers_scan`) and it holds no end marker, so that all of it stands in
front of one (`beforeEnd_scan`).
-/

namespace ArithExpr.Token

/-- Every number of a stream is a run of digits. -/
def DigitNumbers (tokens : List Token) : Prop :=
  ∀ token ∈ tokens, token.kind = .number → Text.IsDigitRun token.literal.toList

/-- No token of a stream is a foreign character. -/
def NoForeign (tokens : List Token) : Prop :=
  ∀ token ∈ tokens, token.kind.isLexicalError = false

/-- The pieces of a source, side by side, are the source. -/
lemma flatten_pieces (source : List Char) : (pieces source).flatten = source :=
  List.flatten_splitBy _ source

/-- The tokens that are located in pieces are those of the pieces. -/
lemma map_token_locateFrom (offset : Nat) (ps : List (List Char)) :
    (locateFrom offset [] ps).map Located.token = ps.filterMap ofPiece? := by
  induction ps generalizing offset with
  | nil => rfl
  | cons piece rest ih =>
    rw [locateFrom]
    cases hpiece : ofPiece? piece with
    | none =>
      rw [List.filterMap_cons_none hpiece]
      exact ih _
    | some token =>
      simp only
      rw [locateFrom_eq_append, List.map_append, ih, List.filterMap_cons_some hpiece]
      rfl

/-- A token of a source is the token of one of its pieces. -/
lemma exists_piece_of_mem_scan {source : String} {token : Token} (h : token ∈ scan source) :
    ∃ piece ∈ pieces source.toList, ofPiece? piece = some token := by
  rw [scan, scanLocated, map_token_locateFrom] at h
  exact List.mem_filterMap.mp h

/-- The token of a piece is a number if the piece begins with a digit, and else the piece begins
with a character that is not blank. -/
lemma cases_of_ofPiece? {piece : List Char} {token : Token} (h : ofPiece? piece = some token) :
    ∃ c rest, piece = c :: rest ∧
      ((c.isDigit = true ∧ token = ⟨.number, String.ofList (c :: rest)⟩) ∨
        (c.isDigit = false ∧ Text.isBlank c = false ∧
          token = ⟨.ofCharacter c, String.ofList (c :: rest)⟩)) := by
  cases piece with
  | nil => cases h
  | cons c rest =>
    refine ⟨c, rest, rfl, ?_⟩
    rw [ofPiece?] at h
    split at h
    · next hdigit => exact Or.inl ⟨hdigit, (Option.some.inj h).symm⟩
    · next hdigit =>
      split at h
      · cases h
      · next hblank =>
        exact Or.inr ⟨by simpa using hdigit, by simpa using hblank, (Option.some.inj h).symm⟩

/-- A piece that begins with a digit is a run of digits. -/
lemma isDigit_of_mem_pieces {source : List Char} {c d : Char} {rest : List Char}
    (hpiece : c :: rest ∈ pieces source) (hc : c.isDigit = true) (hd : d ∈ c :: rest) :
    d.isDigit = true := by
  have hchain := List.isChain_of_mem_splitBy hpiece
  clear hpiece
  induction rest generalizing c with
  | nil => exact List.mem_singleton.mp hd ▸ hc
  | cons next rest ih =>
    obtain ⟨hboth, hchain⟩ := List.isChain_cons_cons.mp hchain
    rcases List.mem_cons.mp hd with rfl | hd
    · exact hc
    · exact ih (Bool.and_eq_true _ _ ▸ hboth).2 hd hchain

/-- What a character is read as is no number and no end marker. -/
lemma ofCharacter_ne (c : Char) :
    Kind.ofCharacter c ≠ .number ∧ Kind.ofCharacter c ≠ .endOfStream := by
  unfold Kind.ofCharacter Kind.ofSymbol
  split
  · split <;> decide
  · decide

/-- The numbers of a source are its runs of digits. -/
theorem digitNumbers_scan (source : String) : DigitNumbers (scan source) := by
  intro token htoken hnumber
  obtain ⟨piece, hpiece, hofPiece⟩ := exists_piece_of_mem_scan htoken
  obtain ⟨c, rest, rfl, ⟨hdigit, rfl⟩ | ⟨-, -, rfl⟩⟩ := cases_of_ofPiece? hofPiece
  · rw [String.toList_ofList]
    exact ⟨List.cons_ne_nil c rest, fun d hd => isDigit_of_mem_pieces hpiece hdigit hd⟩
  · exact absurd hnumber (ofCharacter_ne c).1

/-- A source is all in front of an end marker. -/
theorem beforeEnd_scan (source : String) : beforeEnd (scan source) = scan source := by
  refine List.takeWhile_eq_self_iff.mpr fun token htoken => decide_eq_true ?_
  obtain ⟨piece, -, hofPiece⟩ := exists_piece_of_mem_scan htoken
  obtain ⟨c, rest, -, ⟨-, rfl⟩ | ⟨-, -, rfl⟩⟩ := cases_of_ofPiece? hofPiece
  · exact Kind.noConfusion
  · exact (ofCharacter_ne c).2

end ArithExpr.Token
