import DeclIndex.Text.Table.Identifier
import DeclIndex.Text.Table.Word
import DeclIndex.Text.Basic

/-!
# Letters, digits and identifiers

Classes of characters over the whole of Unicode. ASCII is decided by comparison, all else by the
tables.

## Main definitions

* `Text.isWord` — a letter, a digit or other numeric character, or an underscore.
* `Text.digitValue?` — the value of a decimal digit of any script.
* `Text.isIdentifier` — an identifier: a letter or underscore, then letters, digits, marks and
  connectors.
-/

namespace DeclIndex.Text

/-- Whether a code point lies in one of the ranges. -/
def inRanges (ranges : List (Nat × Nat)) (n : Nat) : Bool :=
  ranges.any fun r => r.1 ≤ n && n ≤ r.2

/-- An ASCII letter or an underscore. -/
def isAsciiLetter (c : Char) : Bool :=
  c.isAlpha || c == '_'

/-- A word character: a letter, a digit or other numeric character of any script, or an
underscore. -/
def isWord (c : Char) : Bool :=
  if c.toNat < 128 then c.isAlphanum || c == '_' else inRanges Table.alphanumeric c.toNat

/-- A decimal digit of any script. -/
def isDigit (c : Char) : Bool :=
  if c.toNat < 128 then c.isDigit else inRanges Table.decimalDigit c.toNat

/-- The value of a decimal digit of any script. -/
def digitValue? (c : Char) : Option Nat :=
  if c.toNat < 128 then (if c.isDigit then some (c.toNat - 48) else none)
  else (Table.decimalDigit.find? fun r => r.1 ≤ c.toNat && c.toNat ≤ r.2).map fun r =>
    (c.toNat - r.1) % 10

/-- A character that may open an identifier. -/
def opensIdentifier (c : Char) : Bool :=
  if c.toNat < 128 then isAsciiLetter c else inRanges Table.identifierStart c.toNat

/-- A character that may stand inside an identifier. -/
def continuesIdentifier (c : Char) : Bool :=
  if c.toNat < 128 then c.isAlphanum || c == '_' else inRanges Table.identifierContinue c.toNat

/-- Whether the text is an identifier. -/
def isIdentifier : Text → Bool
  | [] => false
  | c :: rest => opensIdentifier c && rest.all continuesIdentifier

end DeclIndex.Text
