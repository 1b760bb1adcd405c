/-!
# Blank characters

A character is blank when it has the Unicode property White_Space.  The property
is stable: no character has gained or lost it since Unicode 6.3, so the ranges
below are the whole class.
-/

namespace ArithExpr.Text

/-- The ranges of code points, both ends included, with the property White_Space. -/
def blankRanges : List (Nat × Nat) :=
  [(0x20, 0x20), (0x09, 0x0D), (0x85, 0x85), (0xA0, 0xA0), (0x1680, 0x1680), (0x2000, 0x200A),
    (0x2028, 0x2029), (0x202F, 0x202F), (0x205F, 0x205F), (0x3000, 0x3000)]

/-- A blank separates tokens and belongs to none. -/
def isBlank (c : Char) : Bool :=
  blankRanges.any fun (first, last) => first ≤ c.toNat && c.toNat ≤ last

/-- What core counts as whitespace is blank. -/
theorem isBlank_of_isWhitespace {c : Char} (h : c.isWhitespace = true) : isBlank c = true := by
  simp only [Char.isWhitespace, Bool.or_eq_true, decide_eq_true_eq] at h
  rcases h with ((h | h) | h) | h <;> subst h <;> decide

end ArithExpr.Text
