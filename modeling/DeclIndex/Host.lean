import DeclIndex.Text.CharacterNames
import DeclIndex.Value.Basic

/-!
# The host

What the program takes from its host and does not bring along: a reader of YAML, the names of
characters, and limits. How deep a reader of JSON goes, and which patterns are too deeply nested to
be read, depends on the room on the stack; which paths can be looked up and written to depends on
the file system beyond the tree of files. All that is relied on is that a list in an object is read.

## Main definitions

* `Host` — the host.
* `Host.bare` — a host that sets no limits and reads no YAML.
-/

namespace DeclIndex

/-- Why the reader of YAML gives no value. -/
inductive YamlFault
  /-- The text is not one of YAML. -/
  | malformed
  /-- The reader breaks off with an error that is none of its own, as for a date that there is
  not. -/
  | broken
  deriving DecidableEq, Repr

/-- The host of the program. -/
class Host extends CharacterNames where
  /-- The value that a text writes in YAML. A key that is no text stands as a text that nothing asks
  for. -/
  yaml : Text → Except YamlFault (Value CodePoint)
  /-- The number of lists and objects in one another that a reader of JSON enters. -/
  levels : Nat
  two_le_levels : 2 ≤ levels
  /-- The written patterns that are nested too deeply to be read. -/
  exhausts : Text → Bool
  /-- The paths that cannot be looked up: a name is too long, or a directory on the way closed. -/
  bars : Text → Bool
  /-- What is said when a file is not opened for writing although the tree of files allows it. -/
  denies : Text → Option Text

/-- A host that sets no limits and reads no YAML, with no names of characters. -/
abbrev Host.bare : Host where
  toCharacterNames := .ofTable []
  yaml _ := .error .malformed
  levels := 1000
  two_le_levels := by decide
  exhausts _ := false
  bars _ := false
  denies _ := none

end DeclIndex
