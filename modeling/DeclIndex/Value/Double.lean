import DeclIndex.Text.Number

/-!
# Real numbers

A real number is written in decimal notation and held in 64 bits: 53 binary digits and an exponent.
What is written is rounded to the nearest number that can be held, and of two that are equally near
to the one whose last digit is zero.

## Main definitions

* `Double` — a number as it is held.
* `Double.round` — the number that a fraction is rounded to.
* `Double.ofText` — the number that a text writes.
-/

namespace DeclIndex

/-- A real number in 64 bits. -/
inductive Double
  /-- The number `± size * 2 ^ exponent`. -/
  | finite (negative : Bool) (size : Nat) (exponent : Int)
  | infinite (negative : Bool)
  | undefined
  deriving DecidableEq, Repr

namespace Double

/-- The least exponent. -/
def leastExponent : Int := -1074

/-- The whole number that is nearest to a fraction; of two that are equally near, the even one. -/
def nearest (above below : Nat) : Nat :=
  let n := above / below
  let rest := 2 * (above % below)
  if rest < below || (rest == below && n % 2 == 0) then n else n + 1

/-- The greatest power of two that is not above a fraction other than zero. -/
def binade (above below : Nat) : Int :=
  let e := Int.ofNat above.log2 - Int.ofNat below.log2
  if below * Nat.pow 2 e.toNat ≤ above * Nat.pow 2 (-e).toNat then e else e - 1

/-- The number that a fraction is rounded to. -/
def round (negative : Bool) (above below : Nat) : Double :=
  if above = 0 then .finite negative 0 0
  else
    let e := max (binade above below - 52) leastExponent
    let size := nearest (above * Nat.pow 2 (-e).toNat) (below * Nat.pow 2 e.toNat)
    if Nat.pow 2 1024 ≤ size * Nat.pow 2 e.toNat then .infinite negative
    else .finite negative size e

/-- The number that digits write, with the point moved to the right. Beyond some four hundred places
a number is infinite or zero, whatever its digits are. -/
def ofDigits (negative : Bool) (digits : List Nat) (shift : Int) : Double :=
  let n := Text.readNat 10 digits
  if n = 0 || shift + Int.ofNat digits.length < -400 then .finite negative 0 0
  else if 400 < shift then .infinite negative
  else round negative (n * Nat.pow 10 shift.toNat) (Nat.pow 10 (-shift).toNat)

/-- The number that a text writes: digits with a fraction or an exponent, or one of the words for
numbers without digits. -/
def ofText (written : Text) : Double :=
  let (negative, t) := Text.splitSign written
  if t == "Infinity".toList then .infinite negative
  else if t == "NaN".toList then .undefined
  else
    let mantissa := t.takeWhile fun c => c != 'e' && c != 'E'
    let whole := mantissa.takeWhile (· != '.')
    let fraction := mantissa.drop (whole.length + 1)
    let (below, digits) := Text.splitSign (t.drop (mantissa.length + 1))
    let value (t : Text) : List Nat := t.map fun c => c.toNat - 48
    let exponent := Int.ofNat (Text.readNat 10 (value digits))
    ofDigits negative (value (whole ++ fraction))
      ((if below then -exponent else exponent) - Int.ofNat fraction.length)

/-- Whether a number is zero. -/
def isZero : Double → Bool
  | .finite _ size _ => size == 0
  | _ => false

end Double

end DeclIndex
