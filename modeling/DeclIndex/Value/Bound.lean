import DeclIndex.Value.Basic

/-!
# Bounds

Numbers of a configuration as bounds for whole numbers. A whole number is above a number if it is
above the greatest whole number that is not above it.

## Main definitions

* `Value.bound?` — a value as a bound.
-/

namespace DeclIndex

/-- What a whole number may be above. -/
inductive Bound
  /-- The greatest whole number that is not above the bound. -/
  | floor (n : Int)
  /-- No whole number is above the bound. -/
  | unbounded
  deriving DecidableEq, Repr

/-- A real number as a bound. Nothing is above a number that is undefined. -/
def Double.bound : Double → Bound
  | .finite negative size e =>
    let n := if negative then -Int.ofNat size else Int.ofNat size
    .floor (n * Nat.pow 2 e.toNat / Nat.pow 2 (-e).toNat)
  | .infinite negative => if negative then .floor (-1) else .unbounded
  | .undefined => .unbounded

/-- A value as a bound. Truth values count as one and zero; texts, collections and null are no
bounds. -/
def Value.bound? {χ : Type} : Value χ → Option Bound
  | .bool b => some (.floor (if b then 1 else 0))
  | .int n => some (.floor n)
  | .real written => some (Double.ofText written).bound
  | _ => none

end DeclIndex
