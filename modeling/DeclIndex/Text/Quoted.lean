import DeclIndex.Text.Table.Printable
import DeclIndex.Text.Letter

/-!
# Quoted texts

A text shown between quotation marks. The mark is the apostrophe unless the text holds an
apostrophe and no double quote. The mark in use and the backslash are escaped, control characters
and all that does not print are written by number.

## Main definitions

* `Text.quoted` — the text between its marks.
-/

namespace DeclIndex.Text

/-- A character that is shown as it is. -/
def isPrintable (c : Char) : Bool :=
  if c.toNat < 128 then 0x20 ≤ c.toNat && c.toNat ≤ 0x7E else inRanges Table.printable c.toNat

/-- The hexadecimal digits of a number, filled with zeros on the left to a given width. -/
def hexDigits (width n : Nat) : Text :=
  let digits := Nat.toDigits 16 n
  List.replicate (width - digits.length) '0' ++ digits

/-- A character by number: two digits after `x`, four after `u` or eight after `U`. -/
def numbered (c : Char) : Text :=
  let n := c.toNat
  if n < 0x100 then '\\' :: 'x' :: hexDigits 2 n
  else if n < 0x10000 then '\\' :: 'u' :: hexDigits 4 n
  else '\\' :: 'U' :: hexDigits 8 n

/-- A character as it stands between two marks. -/
def quotedChar (mark c : Char) : Text :=
  if c = mark || c = '\\' then ['\\', c]
  else if c = '\t' then ['\\', 't']
  else if c = '\n' then ['\\', 'n']
  else if c = '\r' then ['\\', 'r']
  else if isPrintable c then [c]
  else numbered c

/-- The mark put around a text. -/
def quoteMark (t : Text) : Char :=
  if t.elem '\'' && !t.elem '"' then '"' else '\''

/-- The text between quotation marks. -/
def quoted (t : Text) : Text :=
  let mark := quoteMark t
  mark :: t.flatMap (quotedChar mark) ++ [mark]

end DeclIndex.Text
