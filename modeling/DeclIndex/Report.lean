import DeclIndex.Element
import DeclIndex.Value.Json

/-!
# Reports

Outlines as text and as JSON. The text has one block per file: its path, then a line for each
element; blocks are separated by empty lines. The JSON document carries the same and the counts of
the run.

## Main definitions

* `Stats` — the counts of a run.
* `Report.line` — an element on one line.
* `Report.text` — outlines as text.
* `Report.json` — outlines as a JSON document.
-/

namespace DeclIndex

/-- The counts of a run. -/
structure Stats where
  processed : Int := 0
  succeeded : Int := 0
  failed : Int := 0
  skipped : Int := 0
  /-- The files that failed, with the reasons, in the order in which they failed. -/
  errors : List (Text × Text) := []
  deriving DecidableEq, Repr

/-- The counts after one more failure. -/
def Stats.recordFailure (s : Stats) (path message : Text) : Stats :=
  { s with failed := s.failed + 1, errors := s.errors ++ [(path, message)] }

namespace Report

/-- The version of the tool, as it stands in reports. -/
def version : Text := "1.0.0"

/-! ### Text -/

/-- What stands between the parts of a line. -/
def separator : Text := " – "

/-- A part of a line after the separator; nothing for an empty text. -/
def part (label t : Text) : Text :=
  if t.isEmpty then [] else separator ++ label ++ t

/-- An element on one line: visibility, kind and name, then the supertype and the documentation if
there are any. -/
def line (e : Element) : Text :=
  ['['] ++ e.visibility.word ++ [']', ' '] ++ e.kind.word ++ [' '] ++ e.name ++
    (if e.kind.isCallable then ['(', ')'] else []) ++
    part "inherited " e.parent ++ part [] e.documentation

/-- The block of one outline. -/
def block (o : Outline) : Text :=
  Text.joinWith ['\n'] (o.path :: o.elements.map line)

/-- Outlines as text. -/
def text (outlines : List Outline) : Text :=
  Text.joinWith ['\n', '\n'] (outlines.map block) ++ if outlines.isEmpty then [] else ['\n']

/-! ### JSON -/

/-- An element as an object. -/
def ofElement (e : Element) : Value :=
  .record [("kind", .text e.kind.word), ("name", .text e.name),
    ("visibility", .text e.visibility.word), ("parent", .text e.parent),
    ("documentation", .text e.documentation), ("line", .int e.line), ("keyword", .text e.keyword)]

/-- An outline as an object. -/
def ofOutline (o : Outline) : Value :=
  .record [("path", .text o.path), ("language", .text o.language),
    ("elements", .list (o.elements.map ofElement))]

/-- The counts of a run as an object. -/
def ofStats (s : Stats) : Value :=
  .record [("processed", .int s.processed), ("succeeded", .int s.succeeded),
    ("failed", .int s.failed), ("skipped", .int s.skipped),
    ("errors", .list (s.errors.map fun e => .record [("path", .text e.1), ("error", .text e.2)]))]

/-- The whole document; `time` says when it was made. -/
def document (time : Text) (outlines : List Outline) (stats : Option Stats) (root : Option Text) :
    Value :=
  .record [
    ("meta", .record ([("generated_at", .text time), ("tool_version", .text version)] ++
      root.toList.map fun r => ("root", .text r))),
    ("summary", (stats.map ofStats).getD (.object [])),
    ("files", .list (outlines.map ofOutline))]

/-- Outlines as a JSON document, if all its numbers can be written. -/
def json (time : Text) (outlines : List Outline) (stats : Option Stats) (root : Option Text) :
    Option Text :=
  Json.print? (document time outlines stats root).wide

end Report

end DeclIndex
