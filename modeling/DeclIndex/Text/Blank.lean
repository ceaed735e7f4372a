import DeclIndex.Text.Basic

/-!
# White space

The white space of Unicode together with the four separators U+001C to U+001F. A zero width space
and a byte order mark are not white space.

## Main definitions

* `Text.isBlank` — a white-space character.
* `Text.trim`, `Text.trimStart`, `Text.trimEnd` — a text without white space at its ends.
-/

namespace DeclIndex.Text

/-- White space: the separators of Unicode, the controls from tab to carriage return, the four
information separators and next line. -/
def isBlank (c : Char) : Bool :=
  let n := c.toNat
  n == 0x20 || (0x09 ≤ n && n ≤ 0x0D) || (0x1C ≤ n && n ≤ 0x1F) || n == 0x85 || n == 0xA0 ||
    n == 0x1680 || (0x2000 ≤ n && n ≤ 0x200A) || n == 0x2028 || n == 0x2029 || n == 0x202F ||
    n == 0x205F || n == 0x3000

/-- The text without the white space it begins with. -/
def trimStart (t : Text) : Text :=
  t.dropWhile isBlank

/-- The text without the white space it ends with. -/
def trimEnd (t : Text) : Text :=
  (t.reverse.dropWhile isBlank).reverse

/-- The text without white space at either end. -/
def trim (t : Text) : Text :=
  trimEnd (trimStart t)

/-- Whether the text begins with white space. -/
def isIndented (t : Text) : Bool :=
  t.head?.any isBlank

end DeclIndex.Text
