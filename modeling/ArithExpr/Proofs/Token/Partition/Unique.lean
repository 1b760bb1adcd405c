import ArithExpr.Proofs.Token.Partition
import Mathlib.Data.List.Sort

/-!
# A source has one partition

What `IsPartition` asks of a list of located tokens leaves no choice
(`IsPartition.unique`), so it describes the tokens of a source completely.

Two partitions are compared at the first character of a token.  It is not blank, so the
other partition has a token with it as well.  If it is a digit, both tokens are numbers
and end where the digits end; if not, both are this character.
-/

namespace ArithExpr.Token

section Unique

variable {source front back : String} {found found' : List Located} {located located' : Located}
  {c : Char} {kind : Kind}

/-- A character has no other kind than what it is read as. -/
lemma Classified.eq_ofCharacter (h : Classified c kind) : kind = .ofCharacter c := by
  cases h with
  | symbol hsymbol =>
    have hgraphic : isGraphic c = true := by
      simp only [symbols, List.mem_cons, Prod.mk.injEq, List.not_mem_nil, or_false] at hsymbol
      rcases hsymbol with ⟨rfl, -⟩ | ⟨rfl, -⟩ | ⟨rfl, -⟩ | ⟨rfl, -⟩ | ⟨rfl, -⟩ | ⟨rfl, -⟩ |
        ⟨rfl, -⟩ <;> decide
    rw [Kind.ofCharacter, if_pos hgraphic]
    exact (mem_symbols_iff.mp hsymbol).1.symm
  | unknown hgraphic hsymbol =>
    rw [Kind.ofCharacter, if_pos (isGraphic_iff.mpr hgraphic)]
    by_contra hknown
    exact hsymbol _ (mem_symbols_iff.mpr ⟨rfl, Ne.symm hknown⟩)
  | illegal hgraphic =>
    rw [Kind.ofCharacter, if_neg fun h => hgraphic (isGraphic_iff.mp h)]

/-- A character whose bytes are in the range of a token is in its literal. -/
lemma Surrounds.exists_within {before behind : String} (h : Surrounds source before behind located)
    (hsource : source = front ++ String.singleton c ++ back)
    (hstart : located.start ≤ front.utf8ByteSize)
    (hstop : front.utf8ByteSize + c.utf8Size ≤ located.stop) :
    ∃ left right, located.token.literal.toList = left ++ c :: right ∧
      front.toList = before.toList ++ left ∧ back.toList = right ++ behind.toList := by
  have hc := c.utf8Size_pos
  have hlists := congrArg String.toList (hsource.symm.trans h.source_eq)
  simp only [String.toList_append, String.toList_singleton, List.append_assoc,
    List.singleton_append] at hlists
  rw [h.stop_eq, h.start_eq] at hstop
  rw [h.start_eq] at hstart
  simp only [← pieceSize_toList] at hstart hstop
  obtain ⟨left, hfront, htail⟩ : ∃ left, front.toList = before.toList ++ left ∧
      located.token.literal.toList ++ behind.toList = left ++ c :: back.toList := by
    rcases List.append_eq_append_iff.mp hlists with ⟨between, hbefore, htail⟩ |
      ⟨between, hfront, htail⟩
    · have hnil : between = [] := by
        by_contra hne
        have hsize := pieceSize_pos hne
        rw [hbefore, pieceSize_append] at hstart
        omega
      subst hnil
      exact ⟨[], by simpa using hbefore.symm, htail.symm⟩
    · exact ⟨between, hfront, htail⟩
  rw [hfront, pieceSize_append] at hstop
  rcases List.append_eq_append_iff.mp htail with ⟨between, hleft, -⟩ | ⟨between, hliteral, hrest⟩
  · rw [hleft, pieceSize_append] at hstop
    omega
  · cases between with
    | nil =>
      rw [hliteral, List.append_nil] at hstop
      omega
    | cons d right =>
      obtain ⟨rfl, hback⟩ := List.cons.inj hrest
      exact ⟨left, right, hliteral, hfront, hback⟩

/-- Tokens with the same text in front of them are the same if their kinds and literals are. -/
lemma Surrounds.eq_of_token {back' : String} (h : Surrounds source front back located)
    (h' : Surrounds source front back' located') (hkind : located.token.kind = located'.token.kind)
    (hliteral : located.token.literal = located'.token.literal) : located = located' := by
  have hstart : located.start = located'.start := h.start_eq.trans h'.start_eq.symm
  have hstop : located.stop = located'.stop := by rw [h.stop_eq, h'.stop_eq, hstart, hliteral]
  rcases located with ⟨⟨_, _⟩, _, _⟩
  rcases located' with ⟨⟨_, _⟩, _, _⟩
  simp only at hkind hliteral hstart hstop
  rw [hkind, hliteral, hstart, hstop]

namespace IsPartition

/-- Any character of a token shows whether it is a number. -/
lemma number_iff_isDigit (h : IsPartition source found) (hmem : located ∈ found)
    (hc : c ∈ located.token.literal.toList) :
    located.token.kind = .number ↔ c.isDigit = true := by
  constructor
  · intro hnumber
    exact ((h.number_iff located hmem).mp hnumber).2 c hc
  · intro hdigit
    by_contra hnumber
    obtain ⟨d, hliteral, -⟩ := h.single located hmem hnumber
    rw [hliteral, String.toList_singleton] at hc
    obtain rfl := List.mem_singleton.mp hc
    refine hnumber ((h.number_iff located hmem).mpr ?_)
    rw [hliteral, String.toList_singleton]
    exact ⟨List.cons_ne_nil c [], by simpa using hdigit⟩

/-- A token with a character that is no digit has no other character. -/
lemma token_eq_of_not_digit (h : IsPartition source found) (hmem : located ∈ found)
    (hc : c ∈ located.token.literal.toList) (hdigit : c.isDigit = false) :
    located.token = ⟨.ofCharacter c, String.singleton c⟩ := by
  have hnumber : located.token.kind ≠ .number := fun hnumber => by
    rw [(h.number_iff_isDigit hmem hc).mp hnumber] at hdigit
    cases hdigit
  obtain ⟨d, hliteral, hkind⟩ := h.single located hmem hnumber
  rw [hliteral, String.toList_singleton] at hc
  obtain rfl := List.mem_singleton.mp hc
  rw [← hliteral, ← hkind.eq_ofCharacter]

/-- Any character of a token shows its kind. -/
lemma kind_eq_of_mem (h : IsPartition source found) (hmem : located ∈ found)
    (hc : c ∈ located.token.literal.toList) :
    located.token.kind = if c.isDigit then .number else .ofCharacter c := by
  by_cases hdigit : c.isDigit = true
  · rw [if_pos hdigit, (h.number_iff_isDigit hmem hc).mpr hdigit]
  · rw [if_neg hdigit]
    rw [Bool.not_eq_true] at hdigit
    rw [h.token_eq_of_not_digit hmem hc hdigit]

/-- Behind its first character, a token goes on like the token of another partition in which the
character is. -/
lemma literal_eq_of_first {rest left right : List Char} {front' back' : String}
    (h : IsPartition source found) (hmem : located ∈ found)
    (hs : Surrounds source front back located) (hliteral : located.token.literal.toList = c :: rest)
    (h' : IsPartition source found') (hmem' : located' ∈ found')
    (hs' : Surrounds source front' back' located')
    (hliteral' : located'.token.literal.toList = left ++ c :: right)
    (hfront : front.toList = front'.toList ++ left)
    (hback : rest ++ back.toList = right ++ back'.toList) :
    left = [] ∧ rest = right := by
  have hc : c ∈ located.token.literal.toList := by simp [hliteral]
  have hc' : c ∈ located'.token.literal.toList := by simp [hliteral']
  by_cases hdigit : c.isDigit = true
  · have hnumber := (h.number_iff_isDigit hmem hc).mpr hdigit
    have hnumber' := (h'.number_iff_isDigit hmem' hc').mpr hdigit
    have hdigits := ((h.number_iff located hmem).mp hnumber).2
    have hdigits' := ((h'.number_iff located' hmem').mp hnumber').2
    obtain ⟨hleft, hright⟩ := h.maximal located hmem hnumber front back hs
    obtain ⟨-, hright'⟩ := h'.maximal located' hmem' hnumber' front' back' hs'
    rw [hliteral] at hdigits
    rw [hliteral'] at hdigits'
    constructor
    · rcases List.eq_nil_or_concat left with hnil | ⟨init, d, hinit⟩
      · exact hnil
      · -- the last of the digits on the left would stand right in front of the run
        have hlast : d ∈ front.toList.getLast? := by simp [hfront, hinit]
        have hd := hleft d hlast
        rw [hdigits' d (by simp [hinit])] at hd
        cases hd
    · refine (Text.append_inj_of_stop (fun d hd => ?_) (fun d hd => ?_) hright hright' hback).1
      · exact ne_false_of_eq_true (hdigits d (List.mem_cons_of_mem c hd))
      · exact ne_false_of_eq_true
          (hdigits' d (List.mem_append_right left (List.mem_cons_of_mem c hd)))
  · rw [Bool.not_eq_true] at hdigit
    rw [h.token_eq_of_not_digit hmem hc hdigit, String.toList_singleton] at hliteral
    rw [h'.token_eq_of_not_digit hmem' hc' hdigit, String.toList_singleton] at hliteral'
    obtain ⟨-, rfl⟩ := List.cons.inj hliteral
    rcases List.append_eq_singleton_iff.mp hliteral'.symm with ⟨rfl, hcons⟩ | ⟨-, hcons⟩
    · exact ⟨rfl, (List.cons.inj hcons).2.symm⟩
    · cases hcons

/-- A token of a partition begins with a character that is not blank. -/
lemma exists_first (h : IsPartition source found) (hmem : located ∈ found)
    (hs : Surrounds source front back located) :
    ∃ c rest, located.token.literal.toList = c :: rest ∧
      source = front ++ String.singleton c ++ String.ofList (rest ++ back.toList) ∧
      Text.isBlank c = false := by
  have hnonempty := h.nonempty located hmem
  obtain ⟨c, rest, hliteral⟩ : ∃ c rest, located.token.literal.toList = c :: rest := by
    refine List.exists_cons_of_ne_nil fun hnil => ?_
    rw [hs.stop_eq, ← pieceSize_toList, hnil] at hnonempty
    exact Nat.lt_irrefl _ hnonempty
  have hsource : source = front ++ String.singleton c ++ String.ofList (rest ++ back.toList) := by
    rw [← String.toList_inj, hs.source_eq]
    simp [hliteral]
  refine ⟨c, rest, hliteral, hsource, ?_⟩
  by_contra hblank
  rw [Bool.not_eq_false] at hblank
  have hsize := c.utf8Size_pos
  have hstart := hs.start_eq
  rcases h.blank front c _ hsource hblank located hmem with hbefore | hbehind <;> omega

/-- Each token of a partition is one of any other. -/
lemma subset (h : IsPartition source found) (h' : IsPartition source found') :
    found ⊆ found' := by
  intro located hmem
  obtain ⟨front, back, hs⟩ := h.surrounded located hmem
  obtain ⟨c, rest, hliteral, hsource, hblank⟩ := h.exists_first hmem hs
  -- the token of the other partition that has the first character of this one
  obtain ⟨located', hmem', hstart, hstop⟩ := h'.covered front c _ hsource hblank
  obtain ⟨front', back', hs'⟩ := h'.surrounded located' hmem'
  obtain ⟨left, right, hliteral', hfront, hback⟩ := hs'.exists_within hsource hstart hstop
  rw [String.toList_ofList] at hback
  obtain ⟨rfl, rfl⟩ :=
    h.literal_eq_of_first hmem hs hliteral h' hmem' hs' hliteral' hfront hback
  rw [List.append_nil, String.toList_inj] at hfront
  rw [List.nil_append, ← hliteral, String.toList_inj] at hliteral'
  have hkind : located.token.kind = located'.token.kind := by
    have hc : c ∈ located.token.literal.toList := by simp [hliteral]
    rw [h.kind_eq_of_mem hmem hc, h'.kind_eq_of_mem hmem' (hliteral' ▸ hc)]
  subst hfront
  exact hs.eq_of_token hs' hkind hliteral'.symm ▸ hmem'

end IsPartition

/-- Two partitions of a source are the same. -/
theorem IsPartition.unique (h : IsPartition source found) (h' : IsPartition source found') :
    found = found' := by
  have hnodup {found : List Located} (h : IsPartition source found) : found.Nodup := by
    refine h.ordered.imp_of_mem fun {earlier later} hearlier _ hle => ?_
    rintro rfl
    exact absurd (h.nonempty earlier hearlier) (Nat.not_lt.mpr hle)
  refine List.Perm.eq_of_pairwise (fun earlier later hearlier hlater hle hle' => ?_)
    h.ordered h'.ordered ?_
  · have hstarts := h.nonempty earlier hearlier
    have hstarts' := h'.nonempty later hlater
    omega
  · rw [List.perm_ext_iff_of_nodup (hnodup h) (hnodup h')]
    exact fun located => ⟨fun hmem => h.subset h' hmem, fun hmem => h'.subset h hmem⟩

end Unique

end ArithExpr.Token
