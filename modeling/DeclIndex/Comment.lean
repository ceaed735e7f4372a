import DeclIndex.Order
import DeclIndex.Text.Blank

/-!
# Comments

The comment that belongs to a declaration, flattened to one line. It stands above the declaration,
or below it where a language has documentation strings.

A comment line is one whose trimmed text begins with a marker. Markers are stripped from both ends
of a line, over and over, longer markers first.

## Main definitions

* `Comment.isComment` — a trimmed line that begins with a marker.
* `Comment.strip` — a comment line without markers and white space at its ends.
* `Comment.above` — the comment block above a declaration.
* `Comment.below` — the documentation string below a declaration.
* `Comment.aboveAt`, `Comment.belowAt` — both for the line with a given index.
-/

namespace DeclIndex.Comment

/-! ### Markers -/

/-- The markers of most languages. -/
def defaultMarkers : List Text :=
  ["///", "//", "/*", "*/", "*", "#", "\"\"\"", "'''", "---"]

/-- The markers that enclose a documentation string of several lines. -/
def quoteMarkers : List Text :=
  ["\"\"\"", "'''"]

/-- The markers, longer ones first. -/
def longestFirst (markers : List Text) : List Text :=
  sortBy (fun a b => b.length < a.length) markers

/-- Whether a trimmed line begins with one of the markers. -/
def isComment (markers : List Text) (line : Text) : Bool :=
  markers.any fun m => line.startsWith m

/-- The longest marker that a line begins with. -/
def opening? (markers : List Text) (line : Text) : Option Text :=
  (longestFirst markers).find? fun m => line.startsWith m

/-- The longest marker that a line ends with. -/
def ending? (markers : List Text) (line : Text) : Option Text :=
  (longestFirst markers).find? fun m => line.endsWith m

/-- Strips up to `n` markers, and the white space after each, from the start of a line. -/
def stripStart (markers : List Text) : Nat → Text → Text
  | 0, line => line
  | n + 1, line =>
    if line.isEmpty then line
    else
      match opening? markers line with
      | none => line
      | some m => stripStart markers n (Text.trimStart (line.drop m.length))

/-- Strips up to `n` markers, and the white space before each, from the end of a line. -/
def stripEnd (markers : List Text) : Nat → Text → Text
  | 0, line => line
  | n + 1, line =>
    if line.isEmpty then line
    else
      match ending? markers line with
      | none => line
      | some m => stripEnd markers n (Text.trimEnd (line.take (line.length - m.length)))

/-- A comment line without markers and white space at its ends. -/
def strip (markers : List Text) (line : Text) : Text :=
  let line := Text.trim line
  let line := stripStart markers line.length line
  stripEnd markers line.length line

/-- The text of a comment line, or nothing if it holds markers only. -/
def textOf (markers : List Text) (line : Text) : List Text :=
  let text := strip markers line
  if text.isEmpty then [] else [text]

/-! ### Above a declaration -/

/-- The texts of up to `depth` comment lines, from top to bottom. The lines above the declaration
are given nearest first; blank ones are passed over and do not count, the first that is neither
blank nor a comment ends the block. -/
def linesAbove (markers : List Text) : Nat → List Text → List Text
  | 0, _ => []
  | _, [] => []
  | depth + 1, line :: above =>
    let line := Text.trim line
    if line.isEmpty then linesAbove markers (depth + 1) above
    else if isComment markers line then linesAbove markers depth above ++ textOf markers line
    else []

/-- The comment block above a declaration on one line; `above` is given nearest first. -/
def above (markers : List Text) (depth : Nat) (lines : List Text) : Text :=
  Text.joinWith [' '] (linesAbove markers depth lines)

/-! ### Below a declaration -/

/-- Whether a documentation string that opens with `marker` ends on the same line. -/
def closesAtOnce (marker line : Text) : Bool :=
  Text.contains marker (line.drop marker.length) ||
    (line.endsWith marker && marker.length < line.length)

/-- The texts of up to `depth` lines, through the first that holds the closing marker. -/
def linesToMarker (markers : List Text) (marker : Text) : Nat → List Text → List Text
  | 0, _ => []
  | _, [] => []
  | depth + 1, line :: below =>
    let line := Text.trim line
    textOf markers line ++
      if Text.contains marker line then [] else linesToMarker markers marker depth below

/-- The texts of up to `depth` lines, while they begin with the marker. -/
def linesWithMarker (markers : List Text) (marker : Text) : Nat → List Text → List Text
  | 0, _ => []
  | _, [] => []
  | depth + 1, line :: below =>
    let line := Text.trim line
    if line.startsWith marker then textOf markers line ++ linesWithMarker markers marker depth below
    else []

/-- The texts of a documentation string of up to `depth` lines that begins on the line `first`. -/
def linesBelow (markers : List Text) (depth : Nat) (first : Text) (below : List Text) :
    List Text :=
  match opening? markers (Text.trim first), depth with
  | none, _ => []
  | _, 0 => []
  | some marker, depth + 1 =>
    if quoteMarkers.contains marker then
      if closesAtOnce marker (Text.trim first) then textOf markers first
      else textOf markers first ++ linesToMarker markers marker depth below
    else linesWithMarker markers marker (depth + 1) (first :: below)

/-- The documentation string below a declaration on one line. The first line that is not blank must
begin with a marker. A string in quotation marks ends at the closing mark, any other with the run of
lines that begin with the marker. -/
def below (markers : List Text) (depth : Nat) (lines : List Text) : Text :=
  match lines.dropWhile fun line => (Text.trim line).isEmpty with
  | [] => []
  | first :: rest => Text.joinWith [' '] (linesBelow markers depth first rest)

/-! ### By index -/

/-- The comment block above the line with a given index. Above an index past the end stand all
lines, above a negative one none; a negative depth is no depth. -/
def aboveAt (markers lines : List Text) (index depth : Int) : Text :=
  above markers depth.toNat (lines.take index.toNat).reverse

/-- The documentation string below the line with a given index. The index starts at -1, below which
stand all lines; nobody asks for a smaller one. A negative depth is no depth. -/
def belowAt (markers lines : List Text) (index depth : Int) : Text :=
  below markers depth.toNat (lines.drop (index + 1).toNat)

end DeclIndex.Comment
