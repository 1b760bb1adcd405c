import ArithExpr.Validity

/-!
# A checker that remembers

A checker judges one stream after another and keeps the faults it has found, the
oldest first.  The verdict on a stream is that of `Validity.check` and does not
depend on the record.
-/

namespace ArithExpr

/-- The faults found so far, oldest first. -/
structure Checker where
  faults : List Fault
  deriving DecidableEq

namespace Checker

/-- A checker that has found nothing yet. -/
def fresh : Checker :=
  ⟨[]⟩

/-- The verdict on a stream, and the checker that has the fault on record if there is one. -/
def check (checker : Checker) (tokens : List Token) :
    Except Validity.Rejection Unit × Checker :=
  match Validity.check tokens with
  | .ok () => (.ok (), checker)
  | .error rejection => (.error rejection, ⟨checker.faults ++ [rejection.fault]⟩)

/-- Whether any stream has been rejected. -/
def errorOccurred (checker : Checker) : Bool :=
  !checker.faults.isEmpty

/-- The record does not touch the verdict. -/
@[simp] theorem check_fst (checker : Checker) (tokens : List Token) :
    (checker.check tokens).1 = Validity.check tokens := by
  unfold check
  split <;> simp_all

end Checker

end ArithExpr
