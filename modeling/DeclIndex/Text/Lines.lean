import DeclIndex.Text.Basic

/-!
# Lines

A text is cut into lines at every line break of Unicode; a carriage return with a line feed is one
break. A break at the end opens no further line.

## Main definitions

* `Text.isBreak` — a character that ends a line.
* `Text.splitLines` — the lines of a text, without their breaks.
* `Text.unifyBreaks` — the text with every carriage return, alone or before a line feed, read as
  one line feed.
-/

namespace DeclIndex.Text

/-- The characters that end a line. -/
def isBreak (c : Char) : Bool :=
  let n := c.toNat
  (0x0A ≤ n && n ≤ 0x0D) || (0x1C ≤ n && n ≤ 0x1E) || n == 0x85 || n == 0x2028 || n == 0x2029

/-- The character put in front of the first line. -/
def consFirst (c : Char) : List Text → List Text
  | [] => [[c]]
  | line :: rest => (c :: line) :: rest

/-- The lines of a text, without their breaks. -/
def splitLines : Text → List Text
  | [] => []
  | '\r' :: '\n' :: rest => [] :: splitLines rest
  | c :: rest => if isBreak c then [] :: splitLines rest else consFirst c (splitLines rest)

/-- The text with a carriage return, and the line feed that may follow it, read as one line feed. -/
def unifyBreaks : Text → Text
  | [] => []
  | '\r' :: '\n' :: rest => '\n' :: unifyBreaks rest
  | c :: rest => (if c = '\r' then '\n' else c) :: unifyBreaks rest

end DeclIndex.Text
