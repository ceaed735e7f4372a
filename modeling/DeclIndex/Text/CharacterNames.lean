import DeclIndex.Text.Basic

/-!
# Names of characters

A pattern may write a character by its name. Which names there are depends on the version of the
tables of characters, which are no part of this library: whatever reads patterns is given them. All
that it relies on is what a name looks like.

## Main definitions

* `CharacterNames` — the names of characters.
* `CharacterNames.ofTable` — the names of a table.
-/

namespace DeclIndex

/-- What the name of a character is made of: letters, digits, blanks and hyphens. -/
def isNameChar (c : Char) : Bool :=
  c.isAlphanum || c == ' ' || c == '-'

/-- The names of characters. -/
class CharacterNames where
  /-- The character of a name. -/
  lookup : Text → Option Char
  /-- What has a character is made as names are. -/
  plain {name : Text} {c : Char} (h : lookup name = some c) : ∀ d ∈ name, isNameChar d = true

/-- The names of a table, in which they stand in capitals. Case makes no difference. -/
abbrev CharacterNames.ofTable (table : List (Text × Char)) : CharacterNames where
  lookup name := if name.all isNameChar then table.lookup (name.map Char.toUpper) else none
  plain := by
    intro name c h
    split at h
    · rename_i hall
      exact List.all_eq_true.mp hall
    · cases h

end DeclIndex
