import ArithExpr.Proofs.Token.Foreign
import Mathlib.Data.List.DropRight

/-!
# The border between two sources

Two sources that stand side by side are always cut at their border, but for one case:
when one ends and the other begins with a digit, the digits on its sides are one number.
`scanLocated_append` says that otherwise the tokens of both are left as they are, the
second ones behind the bytes of the first source, and `scanLocated_append_of_not_apart`
says that the two numbers at the border are the only tokens that change.

Blanks are no digits, so they can be put in at the border unless this would cut a number
in two (`scan_append_blanks_append`).
-/

namespace ArithExpr.Token

/-- The same token, with so many bytes more in front of it. -/
def Located.shift (bytes : Nat) (located : Located) : Located :=
  ⟨located.token, bytes + located.start, bytes + located.stop⟩

section Border

variable {front back : String}

/-- More bytes in front of pieces move their tokens. -/
lemma locateFrom_add (bytes offset : Nat) (ps : List (List Char)) :
    locateFrom (bytes + offset) [] ps = (locateFrom offset [] ps).map (Located.shift bytes) := by
  induction ps generalizing offset with
  | nil => rfl
  | cons piece rest ih =>
    rw [locateFrom, locateFrom, Nat.add_assoc]
    cases ofPiece? piece with
    | none => exact ih _
    | some token =>
      simp only
      rw [locateFrom_eq_append, ih, locateFrom_eq_append _ [_] rest, List.map_append]
      rfl

/-- Sources that are apart have the tokens of the first, and behind its bytes those of the
second. -/
theorem scanLocated_append (h : Apart front.toList back.toList) :
    scanLocated (front ++ back) =
      scanLocated front ++ (scanLocated back).map (Located.shift front.utf8ByteSize) := by
  rw [scanLocated, String.toList_append, pieces_append h, locateFrom_append, flatten_pieces,
    pieceSize_toList, Nat.zero_add, ← Nat.add_zero front.utf8ByteSize, locateFrom_add]
  rfl

/-! ### A number across the border -/

/-- A source that ends with a digit ends with a run of digits that cannot be made longer. -/
lemma exists_last_digits (h : ∃ c ∈ front.toList.getLast?, c.isDigit = true) :
    ∃ rest digits : String, front = rest ++ digits ∧ Text.IsDigitRun digits.toList ∧
      ∀ c ∈ rest.toList.getLast?, c.isDigit = false := by
  obtain ⟨c, hc, hdigit⟩ := h
  obtain ⟨hne, rfl⟩ := List.mem_getLast?_eq_getLast hc
  refine ⟨.ofList (front.toList.rdropWhile Char.isDigit),
    .ofList (front.toList.rtakeWhile Char.isDigit), ?_, ⟨?_, ?_⟩, ?_⟩
  · rw [← String.ofList_append, List.rdropWhile_append_rtakeWhile, String.ofList_toList]
  · rw [String.toList_ofList]
    exact fun hnil => List.rtakeWhile_eq_nil_iff.mp hnil hne hdigit
  · rw [String.toList_ofList]
    exact fun d hd => List.mem_rtakeWhile_imp hd
  · rw [String.toList_ofList]
    intro d hd
    obtain ⟨hrest, rfl⟩ := List.mem_getLast?_eq_getLast hd
    exact Bool.eq_false_iff.mpr (List.rdropWhile_last_not _ _ hrest)

/-- A source that begins with a digit begins with a run of digits that cannot be made longer. -/
lemma exists_first_digits (h : ∃ c ∈ back.toList.head?, c.isDigit = true) :
    ∃ digits rest : String, back = digits ++ rest ∧ Text.IsDigitRun digits.toList ∧
      ∀ c ∈ rest.toList.head?, c.isDigit = false := by
  obtain ⟨c, hc, hdigit⟩ := h
  obtain ⟨tail, hback⟩ := List.head?_eq_some_iff.mp hc
  refine ⟨.ofList (back.toList.takeWhile Char.isDigit),
    .ofList (back.toList.dropWhile Char.isDigit), ?_, ⟨?_, ?_⟩, ?_⟩
  · rw [← String.ofList_append, List.takeWhile_append_dropWhile, String.ofList_toList]
  · rw [String.toList_ofList, hback, List.takeWhile_cons_of_pos hdigit]
    exact List.cons_ne_nil _ _
  · rw [String.toList_ofList]
    exact fun d hd => List.mem_takeWhile_imp hd
  · rw [String.toList_ofList]
    intro d hd
    have hstop := List.head?_dropWhile_not Char.isDigit back.toList
    rwa [Option.mem_def.mp hd] at hstop

/-- Digits alone are located as a number. -/
lemma scanLocated_digits {digits : String} (h : Text.IsDigitRun digits.toList) :
    scanLocated digits = [⟨⟨.number, digits⟩, 0, digits.utf8ByteSize⟩] := by
  obtain ⟨c, rest, hdigits⟩ := List.exists_cons_of_ne_nil h.1
  have hpiece : ofPiece? digits.toList = some ⟨.number, digits⟩ := by
    rw [hdigits, ofPiece?, if_pos (h.2 c (by rw [hdigits]; exact List.mem_cons_self)), ← hdigits,
      String.ofList_toList]
  rw [scanLocated, pieces_digits h, locateFrom, hpiece, pieceSize_toList, Nat.zero_add]
  rfl

/-- Digits with none at their sides are located between what stands there. -/
lemma scanLocated_append_digits_append {before digits behind : String}
    (hdigits : Text.IsDigitRun digits.toList)
    (hbefore : ∀ c ∈ before.toList.getLast?, c.isDigit = false)
    (hbehind : ∀ c ∈ behind.toList.head?, c.isDigit = false) :
    scanLocated (before ++ (digits ++ behind)) = scanLocated before ++
      ⟨⟨.number, digits⟩, before.utf8ByteSize, (before ++ digits).utf8ByteSize⟩ ::
        (scanLocated behind).map (Located.shift (before ++ digits).utf8ByteSize) := by
  rw [scanLocated_append (apart_of_getLast hbefore), scanLocated_append (apart_of_head hbehind),
    scanLocated_digits hdigits, List.singleton_append, List.map_cons, List.map_map,
    String.utf8ByteSize_append]
  simp [Located.shift, Function.comp_def, Nat.add_assoc]

/-- Texts that are not apart have digits on both sides of their border. -/
lemma digits_of_not_apart {chars chars' : List Char} (h : ¬ Apart chars chars') :
    (∃ c ∈ chars.getLast?, c.isDigit = true) ∧ ∃ c ∈ chars'.head?, c.isDigit = true := by
  by_contra hnone
  refine h fun c hc d hd => Bool.eq_false_iff.mpr fun hdigits => hnone ?_
  obtain ⟨hleft, hright⟩ := Bool.and_eq_true_iff.mp hdigits
  exact ⟨⟨c, hc, hleft⟩, d, hd, hright⟩

/-- Where digits meet at the border, the numbers on its sides become one, and no other token
changes. -/
theorem scanLocated_append_of_not_apart (h : ¬ Apart front.toList back.toList) :
    ∃ before left right behind, scanLocated front = before ++ [left] ∧
      scanLocated back = right :: behind ∧ left.token.kind = .number ∧
      right.token.kind = .number ∧
      scanLocated (front ++ back) = before ++
        ⟨⟨.number, left.token.literal ++ right.token.literal⟩, left.start,
          front.utf8ByteSize + right.stop⟩ ::
        behind.map (Located.shift front.utf8ByteSize) := by
  obtain ⟨hfront, hback⟩ := digits_of_not_apart h
  obtain ⟨before, left, rfl, hleft, hbefore⟩ := exists_last_digits hfront
  obtain ⟨right, behind, rfl, hright, hbehind⟩ := exists_first_digits hback
  have hdigits : Text.IsDigitRun (left ++ right).toList := by
    rw [String.toList_append]
    exact ⟨List.append_ne_nil_of_left_ne_nil hleft.1 _,
      List.forall_mem_append.mpr ⟨hleft.2, hright.2⟩⟩
  refine ⟨scanLocated before, ⟨⟨.number, left⟩, before.utf8ByteSize, (before ++ left).utf8ByteSize⟩,
    ⟨⟨.number, right⟩, 0, right.utf8ByteSize⟩,
    (scanLocated behind).map (Located.shift right.utf8ByteSize), ?_, ?_, rfl, rfl, ?_⟩
  · rw [scanLocated_append (apart_of_getLast hbefore), scanLocated_digits hleft,
      String.utf8ByteSize_append]
    rfl
  · rw [scanLocated_append (apart_of_head hbehind), scanLocated_digits hright,
      List.singleton_append]
  · have hsource : before ++ left ++ (right ++ behind) = before ++ (left ++ right ++ behind) := by
      simp only [String.append_assoc]
    rw [hsource, scanLocated_append_digits_append hdigits hbefore hbehind, List.map_map]
    simp [Located.shift, Function.comp_def, Nat.add_assoc]

/-! ### Blanks at the border -/

/-- A text of blanks has no tokens. -/
lemma scan_blanks {blanks : String} (h : ∀ c ∈ blanks.toList, Text.isBlank c = true) :
    scan blanks = [] := by
  refine List.eq_nil_iff_forall_not_mem.mpr fun token htoken => ?_
  obtain ⟨piece, hpiece, hofPiece⟩ := exists_piece_of_mem_scan htoken
  obtain ⟨c, rest, rfl, hc⟩ := cases_of_ofPiece? hofPiece
  have hmem : c ∈ blanks.toList := by
    rw [← flatten_pieces blanks.toList]
    exact List.mem_flatten.mpr ⟨_, hpiece, List.mem_cons_self⟩
  have hblank := h c hmem
  rcases hc with ⟨hdigit, -⟩ | ⟨-, hnone, -⟩
  · rw [isDigit_eq_false_of_isBlank hblank] at hdigit
    cases hdigit
  · rw [hnone] at hblank
    cases hblank

/-- Blanks between sources that are apart leave no trace in the tokens. -/
theorem scan_append_blanks_append (h : Apart front.toList back.toList) {blanks : String}
    (hblank : ∀ c ∈ blanks.toList, Text.isBlank c = true) :
    scan (front ++ blanks ++ back) = scan (front ++ back) := by
  have hdigit (c : Char) (hc : c ∈ blanks.toList) : c.isDigit = false :=
    isDigit_eq_false_of_isBlank (hblank c hc)
  have hfront : Apart front.toList blanks.toList :=
    apart_of_head fun c hc => hdigit c (List.mem_of_mem_head? hc)
  have hback : Apart (front ++ blanks).toList back.toList := by
    rw [String.toList_append]
    by_cases hempty : blanks.toList = []
    · rwa [hempty, List.append_nil]
    · refine apart_of_getLast fun c hc => hdigit c (List.mem_of_mem_getLast? ?_)
      rwa [List.getLast?_append_of_ne_nil _ hempty] at hc
  rw [scan_append hback, scan_append hfront, scan_blanks hblank, List.append_nil, scan_append h]

end Border

end ArithExpr.Token
