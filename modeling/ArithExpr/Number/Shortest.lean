import ArithExpr.Number.Decimal

/-!
# The shortest decimal of a double

The reals that round to a finite double form an interval around it, whose ends
belong to it exactly when the code is even.  Among the decimals in that interval
the shortest has the fewest digits, and of those it is the nearest to the value.

It is found on the grids of the multiples of `10 ^ k`, from a coarse grid down.  A
grid has a point in the interval only if one of the value's two neighbours on it
lies there, so two tests decide a grid, and the first grid with a hit has the
fewest digits.  Should none of the grids tried have one, the value itself, written
out in full, is a decimal in the interval.
-/

namespace ArithExpr

/-- Which of two equally near decimals is taken: the greater, or the one with even coefficient. -/
inductive Tie where
  | up
  | even
  deriving DecidableEq

namespace Double

/-- The lower end of the interval that rounds to a code, in units of `2 ^ -1075`: the middle
between the value and the one below. -/
def lowerEnd (code : Nat) : Nat :=
  units (code - 1) + units code

/-- The upper end of the interval that rounds to a code, in units of `2 ^ -1075`. -/
def upperEnd (code : Nat) : Nat :=
  units code + units (code + 1)

/-- Whether a decimal lies in the interval of the reals that round to a code. -/
def rounds (code : Nat) (d : Decimal) : Bool :=
  let value := d.coefficient * Nat.pow 10 d.exponent.toNat * Nat.pow 2 1075
  let scale := Nat.pow 10 (-d.exponent).toNat
  if code % 2 = 0 then lowerEnd code * scale ≤ value && value ≤ upperEnd code * scale
  else lowerEnd code * scale < value && value < upperEnd code * scale

/-- The nearer of the neighbours `c` and `c + 1` of a value on the grid of `10 ^ k`. -/
def nearer (tie : Tie) (code : Nat) (c : Nat) (k : Int) : Nat :=
  let value := 2 * units code * Nat.pow 10 (-k).toNat
  let middle := (2 * c + 1) * Nat.pow 10 k.toNat * Nat.pow 2 1074
  if value < middle then c
  else if middle < value then c + 1
  else match tie with
    | .up => c + 1
    | .even => if c % 2 = 0 then c else c + 1

/-- The decimal on the grid of `10 ^ k` that rounds to a code and is nearest to its value. -/
def onGrid? (tie : Tie) (code : Nat) (k : Int) : Option Decimal :=
  let c := units code * Nat.pow 10 (-k).toNat / (Nat.pow 10 k.toNat * Nat.pow 2 1074)
  match rounds code ⟨c, k⟩, rounds code ⟨c + 1, k⟩ with
  | true, true => some ⟨nearer tie code c k, k⟩
  | true, false => some ⟨c, k⟩
  | false, true => some ⟨c + 1, k⟩
  | false, false => none

/-- The value of a code written out in full. -/
def exactly (code : Nat) : Decimal :=
  ⟨units code * Nat.pow 5 1074, -1074⟩

/-- Try the grid of `10 ^ k` and, if it has no hit, the next finer ones, `grids` in all. -/
def searchFrom (tie : Tie) (code : Nat) : (grids : Nat) → (k : Int) → Decimal
  | 0, _ => exactly code
  | grids + 1, k => (onGrid? tie code k).getD (searchFrom tie code grids (k - 1))

/-- A power of ten above the value of a code: the binary logarithm times `log 2 / log 10`, which
`30103 / 100000` exceeds by less than the step that is added. -/
def coarsestGrid (code : Nat) : Int :=
  (((units code).log2 : Int) - 1073) * 30103 / 100000 + 1

/-- The shortest decimal that rounds to a code, and zero for code zero.  Seventeen digits always
suffice, and the first grid is at most three digits too coarse. -/
def shortest (tie : Tie) (code : Nat) : Decimal :=
  if code = 0 then ⟨0, 0⟩ else searchFrom tie code 20 (coarsestGrid code)

end Double

end ArithExpr
