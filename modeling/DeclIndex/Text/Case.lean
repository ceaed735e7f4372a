import DeclIndex.Text.Table.Case
import DeclIndex.Text.Letter

/-!
# Letter case

Lower case, upper case and agreement up to case.

Two characters agree up to case if their simple lower-case forms are equal or share an upper-case
form: `k` agrees with the Kelvin sign, `s` with the long s, `i` with the dotless `ı` and, through
its lower case, with the dotted `İ`.

## Main definitions

* `Text.lowerChar` — the simple lower case of a character.
* `Text.lower` — the full lower case of a text: `İ` becomes two characters and a capital sigma at
  the end of a word becomes a final sigma.
* `Text.isUpper` — an upper-case character.
* `Text.caseVariants` — all characters that agree with one up to case.
-/

namespace DeclIndex.Text

/-! ### Single characters -/

/-- Whether a code point is one of those from `first` to `last` at distance `step`. -/
def onStep (first last step n : Nat) : Bool :=
  first ≤ n && n ≤ last && (n - first) % step == 0

/-- Whether the character is upper case. -/
def isUpper (c : Char) : Bool :=
  if c.toNat < 128 then c.isUpper
  else Table.upperCase.any fun r => onStep r.1 r.2.1 r.2.2 c.toNat

/-- The simple lower case of a character; a character without one is its own. -/
def lowerChar (c : Char) : Char :=
  if c.toNat < 128 then c.toLower
  else
    match Table.lowerMapping.find? fun r => onStep r.1 r.2.1 r.2.2.1 c.toNat with
    | some r => Char.ofNat (r.2.2.2 + (c.toNat - r.1))
    | none => c

/-- The characters with a given simple lower case, other than itself. -/
def capitalsOf (c : Char) : List Char :=
  (if c.isLower then [c.toUpper] else []) ++
    Table.lowerMapping.filterMap fun r =>
      let n := c.toNat - r.2.2.2 + r.1
      if r.2.2.2 ≤ c.toNat && onStep r.1 r.2.1 r.2.2.1 n then some (Char.ofNat n) else none

/-- The lower-case characters that share an upper-case form with a lower-case character, itself
among them. -/
def companions (c : Char) : List Char :=
  match Table.caseCompanions.find? fun s => s.contains c.toNat with
  | some s => s.map Char.ofNat
  | none => [c]

/-- All characters that agree with `c` up to case. -/
def caseVariants (c : Char) : List Char :=
  (companions (lowerChar c)).flatMap fun d => d :: capitalsOf d

/-- Whether two characters agree up to case. -/
def agree (c d : Char) : Bool :=
  lowerChar c == lowerChar d || (companions (lowerChar c)).contains (lowerChar d)

/-! ### Texts -/

/-- A character with a case that counts as the neighbour of a sigma. -/
def isCased (c : Char) : Bool :=
  if c.toNat < 128 then c.isAlpha else inRanges Table.casedLetter c.toNat

/-- A character that is passed over when the neighbour of a sigma is looked for. -/
def isCaseIgnorable (c : Char) : Bool :=
  if c.toNat < 128 then "'.:^\u0060".toList.contains c else inRanges Table.caseIgnorable c.toNat

/-- Whether a capital sigma ends a word: a cased character comes before it, nearest first in
`passed`, and none after it. -/
def endsWord (passed rest : Text) : Bool :=
  (passed.dropWhile isCaseIgnorable).head?.any isCased &&
    !(rest.dropWhile isCaseIgnorable).head?.any isCased

/-- The lower case of `rest`, with the characters before it in `passed`, nearest first. -/
def lowerAfter (passed : Text) : Text → Text
  | [] => []
  | c :: rest =>
    (if c = 'Σ' then [if endsWord passed rest then 'ς' else 'σ']
      else if c = 'İ' then ['i', '\u0307']
      else [lowerChar c]) ++ lowerAfter (c :: passed) rest

/-- The lower case of a text. -/
def lower (t : Text) : Text :=
  lowerAfter [] t

end DeclIndex.Text
