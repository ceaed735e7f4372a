import DeclIndex.Text.Blank
import DeclIndex.Text.Letter

/-!
# Written numbers

Integers as they are written by hand: white space around them, a sign, decimal digits of any script
and single underscores between digits. Since the time it takes to convert an integer grows with the
square of its length, integers with too many digits are neither read nor printed.

## Main definitions

* `Text.mostDigits` — the greatest number of digits that an integer may have.
* `Text.readNat` — the value of a list of digits in a base.
* `Text.readInt?` — the integer that a text writes.
-/

namespace DeclIndex.Text

/-- The value of digits in a base, the most significant first. -/
def readNat (base : Nat) (digits : List Nat) : Nat :=
  digits.foldl (fun n d => n * base + d) 0

/-- The value of a hexadecimal digit. -/
def hexValue? (c : Char) : Option Nat :=
  if c.isDigit then some (c.toNat - 48)
  else if 'a' ≤ c && c ≤ 'f' then some (c.toNat - 87)
  else if 'A' ≤ c && c ≤ 'F' then some (c.toNat - 55)
  else none

/-- The digits of a text in which single underscores may separate digits. -/
def digitsOf? : Text → Option (List Nat)
  | [] => none
  | [c] => (digitValue? c).map ([·])
  | c :: '_' :: rest =>
    match digitValue? c, digitsOf? rest with
    | some d, some ds => some (d :: ds)
    | _, _ => none
  | c :: rest =>
    match digitValue? c, digitsOf? rest with
    | some d, some ds => some (d :: ds)
    | _, _ => none

/-- The greatest number of digits of an integer that is read or printed. -/
@[irreducible] def mostDigits : Nat := 4300

/-- Some digits are read and printed. -/
theorem mostDigits_pos : 0 < mostDigits := by
  unfold mostDigits
  decide

/-- The digits of a text and whether a minus sign stands before them. -/
def splitSign : Text → Bool × Text
  | '-' :: t => (true, t)
  | '+' :: t => (false, t)
  | t => (false, t)

/-- The integer that a text writes, if it writes one and has not too many digits. -/
def readInt? (t : Text) : Option Int :=
  let (negative, written) := splitSign (trim t)
  match digitsOf? written with
  | none => none
  | some digits =>
    if mostDigits < digits.length then none
    else
      let n := Int.ofNat (readNat 10 digits)
      some (if negative then -n else n)

end DeclIndex.Text
