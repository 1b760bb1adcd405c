import ArithExpr.Number.Double

/-!
# Decimals

A decimal is a natural coefficient times a power of ten.  It is what stands
between a numeral and a double: reading a numeral gives a decimal, which is
rounded, and writing a double first chooses a decimal.
-/

namespace ArithExpr

/-- The number `coefficient * 10 ^ exponent`. -/
structure Decimal where
  coefficient : Nat
  exponent : Int
  deriving DecidableEq

namespace Decimal

/-- The double nearest to a decimal, with a sign.  From `10 ^ 310` on every magnitude is infinite,
and one whose bits show that it is below `10 ^ -400` is zero; such powers of ten are never
computed. -/
def toDouble (negative : Bool) (d : Decimal) : Double :=
  let up := d.exponent.toNat
  let down := (-d.exponent).toNat
  if d.coefficient = 0 then .ofCode negative 0
  else if 309 < up then .infinite negative
  else if d.coefficient.log2 < 3 * (down - 400) then .ofCode negative 0
  else .ofRatio negative (d.coefficient * Nat.pow 10 up) (Nat.pow 10 down)

end Decimal

end ArithExpr
