/-!
# Integers of 64 bits

Integers in documents are held in 64 bits with a sign, and the numbers that settings are
read as in 64 bits without one.
-/

namespace ArithExpr.Word

/-- The greatest integer without a sign, `2 ^ 64 - 1`. -/
def greatest : Nat :=
  0xFFFFFFFFFFFFFFFF

/-- Whether an integer fits when one bit holds its sign: from `-2 ^ 63` up to but without
`2 ^ 63`. -/
def fitsSigned (n : Int) : Bool :=
  -0x8000000000000000 ≤ n && n < 0x8000000000000000

/-- Whether an integer fits when no bit holds a sign: from zero up to `greatest`. -/
def fitsUnsigned (n : Int) : Bool :=
  0 ≤ n && n ≤ greatest

end ArithExpr.Word
