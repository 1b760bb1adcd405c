import ArithExpr.Proofs.Formats.Writing

/-!
# Numbers in written trees

A literal of a tree is a magnitude or infinite, and in the layouts that trees are written
in no two of them have the same text: magnitudes begin with a digit, and the word for
infinity does not.  Neither has any of the characters that can stand behind a number.
-/

namespace ArithExpr

namespace Layout

/-- The characters that can stand behind a number. -/
def numberEnds : List Char :=
  [' ', ')', '\n']

/-- The word for infinity does not begin like a number, and no character of it ends one. -/
def HasClearWord (layout : Layout) : Prop :=
  (layout.positiveInfinity.toList.head?.all fun c => !c.isDigit) ∧
    layout.positiveInfinity.toList.all fun c => !numberEnds.contains c

instance : DecidablePred HasClearWord :=
  fun _ => inferInstanceAs (Decidable (_ ∧ _))

section Words

variable {layout : Layout} {value value' : Double} {rest rest' : List Char}

lemma toList_write (layout : Layout) (code : Fin Double.finiteCodes) :
    (layout.write (.finite false code)).toList =
      layout.setDecimal (Double.shortest layout.tie code) := by
  unfold write
  exact String.toList_ofList

/-- The text of a literal has no character that can stand behind it. -/
lemma not_mem_numberEnds (hclear : layout.HasClearWord) (hvalue : value.IsUnsigned) :
    ∀ c ∈ (layout.write value).toList, c ∉ numberEnds := by
  obtain ⟨code, rfl⟩ | rfl := hvalue
  · intro c hc hends
    rw [toList_write] at hc
    have hother : numberEnds.all fun c => ¬ (c.isDigit = true ∨ c ∈ ['.', 'e', '+', '-']) := by
      decide
    have hnot := List.all_eq_true.mp hother c hends
    exact of_decide_eq_true hnot (mem_of_mem_setDecimal hc)
  · intro c hc hends
    have hclear := List.all_eq_true.mp hclear.2 c hc
    simp [hends] at hclear

/-- The texts of two literals differ. -/
lemma write_inj (hclear : layout.HasClearWord) (hvalue : value.IsUnsigned)
    (hvalue' : value'.IsUnsigned) (h : layout.write value = layout.write value') :
    value = value' := by
  have hword (code : Fin Double.finiteCodes) :
      layout.write (.finite false code) ≠ layout.positiveInfinity := by
    intro hsame
    obtain ⟨c, rest, hcons, hdigit⟩ :=
      exists_digit_setDecimal layout (Double.shortest layout.tie code)
    have hhead := hclear.1
    rw [← hsame, toList_write, hcons] at hhead
    simp [hdigit] at hhead
  obtain ⟨code, rfl⟩ | rfl := hvalue
  · obtain ⟨code', rfl⟩ | rfl := hvalue'
    · rw [write_injective layout h]
    · exact absurd h (hword code)
  · obtain ⟨code', rfl⟩ | rfl := hvalue'
    · exact absurd h.symm (hword code')
    · rfl

/-- A literal can be recovered from its text, and so can what follows it. -/
theorem write_append_inj (hclear : layout.HasClearWord) (hvalue : value.IsUnsigned)
    (hvalue' : value'.IsUnsigned) (hrest : ∀ c ∈ rest.head?, c ∈ numberEnds)
    (hrest' : ∀ c ∈ rest'.head?, c ∈ numberEnds)
    (h : (layout.write value).toList ++ rest = (layout.write value').toList ++ rest') :
    value = value' ∧ rest = rest' := by
  obtain ⟨htext, hrest⟩ := Text.append_inj_of_stop (not_mem_numberEnds hclear hvalue)
    (not_mem_numberEnds hclear hvalue') hrest hrest' h
  exact ⟨write_inj hclear hvalue hvalue' (String.toList_injective htext), hrest⟩

end Words

end Layout

end ArithExpr
