import DeclIndex.Text.Basic

/-!
# Places in a YAML text

Nesting in YAML is shown by columns, so that a reader has to know in which column it stands. Here
are the steps of a reader that do not look at values: over white space and comments, and over the
line breaks inside a text.

## Main definitions

* `Yaml.Place` — what is still to be read, and where it stands.
* `Yaml.Place.token` — the next place that is neither white space nor in a comment.
* `Yaml.Place.overBlanks` — the next place on the lines of a text that goes on.
-/

namespace DeclIndex.Yaml

/-- What is still to be read, and where it stands. -/
structure Place where
  line : Nat := 0
  column : Nat := 0
  rest : Text
  deriving DecidableEq, Repr

/-- The characters that end a line. -/
def isBreak (c : Char) : Bool :=
  c == '\n' || c == '\r' || c == '\x85' || c == '\u2028' || c == '\u2029'

/-- A line break as it stands in a value. -/
def plainBreak (c : Char) : Char :=
  if c == '\r' || c == '\x85' then '\n' else c

/-- White space and line breaks. -/
def isSpace (c : Char) : Bool :=
  c == ' ' || c == '\t' || isBreak c

/-- Whether a mark before this text stands alone. -/
def standsAlone : Text → Bool
  | [] => true
  | c :: _ => isSpace c

/-- The characters that a document may hold. -/
def isAllowed (c : Char) : Bool :=
  let n := c.toNat
  n == 0x09 || n == 0x0A || n == 0x0D || (0x20 ≤ n && n ≤ 0x7E) || n == 0x85 ||
    (0xA0 ≤ n && n ≤ 0xFFFD) || 0x10000 ≤ n

namespace Place

/-- Whether nothing is left. -/
def atEnd (p : Place) : Bool :=
  p.rest.isEmpty

/-- The place after some characters of the same line. -/
def advance (p : Place) (n : Nat) : Place :=
  { p with column := p.column + n, rest := p.rest.drop n }

/-- Whether a text stands here. -/
def isAt (p : Place) (t : Text) : Bool :=
  p.rest.startsWith t

/-- Whether a mark stands here alone. -/
def atMark (p : Place) (mark : Text) : Bool :=
  p.isAt mark && standsAlone (p.rest.drop mark.length)

/-- Whether a document begins or ends here. -/
def atBoundary (p : Place) : Bool :=
  p.column == 0 && (p.atMark "---" || p.atMark "...")

/-- Whether the content of a document ends here. -/
def isLast (p : Place) : Bool :=
  p.atEnd || p.atBoundary

/-- The next place that is no space, no line break and not in a comment. -/
def skip (line column : Nat) (inComment : Bool) : Text → Place
  | [] => ⟨line, column, []⟩
  | c :: rest =>
    if isBreak c then skip (line + 1) 0 false rest
    else if inComment then skip line (column + 1) true rest
    else if c = ' ' then skip line (column + 1) false rest
    else if c = '#' then skip line (column + 1) true rest
    else ⟨line, column, c :: rest⟩

/-- The next place that is no space, no line break and not in a comment. -/
def token (p : Place) : Place :=
  skip p.line p.column false p.rest

/-- The next place that is neither a blank nor a line break, and the breaks on the way there. -/
def blanks (isBlank : Char → Bool) (line column : Nat) : Text → Text × Place
  | [] => ([], ⟨line, column, []⟩)
  | c :: rest =>
    if isBreak c then
      let (breaks, p) := blanks isBlank (line + 1) 0 rest
      (plainBreak c :: breaks, p)
    else if isBlank c then blanks isBlank line (column + 1) rest
    else ([], ⟨line, column, c :: rest⟩)

end Place

/-- What line breaks stand for inside a text: a single one for a space, more for all but the
first. -/
def folded : Text → Text
  | [] => []
  | ['\n'] => [' ']
  | '\n' :: more => more
  | breaks => breaks

/-- The next place that is neither a blank nor a line break, and what the text on the way there
stands for: line breaks are folded, blanks on one line are kept. -/
def Place.overBlanks (p : Place) (isBlank : Char → Bool) : Text × Place :=
  let (breaks, next) := blanks isBlank p.line p.column p.rest
  if breaks.isEmpty then (p.rest.takeWhile isBlank, next) else (folded breaks, next)

end DeclIndex.Yaml
