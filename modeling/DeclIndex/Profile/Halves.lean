import DeclIndex.Profile.Entry

/-!
# Entries with halves of characters

The texts of a configuration may hold halves of characters. Those of files and arguments do not, so
that an entry with halves does the same as one made of characters alone, and is read as that one:

* in a pattern, a half is written by number, and so it is when the pattern is quoted in a message;
* in the name of a language, a half is shown by number in messages, but the language goes without a
  name, since no one can ask for it;
* any other text with halves gives way to one that no file has.

## Main definitions

* `WideText.shown`, `WideText.asPattern` — texts and patterns with their halves by number.
* `Entry.plain` — an entry made of characters alone.
* `Entry.wideProfile`, `Entry.wideSection` — the profile of an entry, and the profiles of the
  entries in a section of a configuration.
-/

namespace DeclIndex

/-- A code point as it is shown: a half by its number. -/
def CodePoint.shown : CodePoint → Text
  | .char c => [c]
  | .surrogate offset => '\\' :: 'u' :: Text.hexDigits 4 (0xD800 + offset)

namespace WideText

/-- A text with its halves shown by number. -/
def shown (t : WideText) : Text :=
  t.flatMap CodePoint.shown

/-- A pattern with its halves written by number. A backslash before a half is dropped, since the
number has its own. -/
def asPattern : WideText → Text
  | [] => []
  | .char '\\' :: .char c :: rest => '\\' :: c :: asPattern rest
  | .char '\\' :: .surrogate offset :: rest => (CodePoint.surrogate offset).shown ++ asPattern rest
  | p :: rest => p.shown ++ asPattern rest

end WideText

namespace Entry

/-! ### Entries of characters -/

/-- A text that is found in no line of a file and is no suffix of its name. -/
def unseen : Text :=
  "\n/"

/-- A text under a key as one of characters alone. -/
def plainText (key : Text) (t : WideText) : Text :=
  if key = "name" then t.shown
  else if ruleKinds.any fun kind => kind.word == key then t.asPattern
  else t.narrow?.getD unseen

/-- A value of which no more is told than its kind and whether it counts as absent. -/
def kindOnly (v : Value CodePoint) : Value :=
  .other v.kindWord v.isBlank

/-- An item of a list under a key, made of characters alone. -/
def plainItem (key : Text) : Value CodePoint → Value
  | .text t => .text (plainText key t)
  | v => kindOnly v

/-- A value under a key, made of characters alone. -/
def plainValue (key : Text) : Value CodePoint → Value
  | .text t => .text (plainText key t)
  | .list items => .list (items.map (plainItem key))
  | v => kindOnly v

/-- The fields of an entry, made of characters alone. A key with halves is asked for by no one. -/
def plainFields (fields : List (WideText × Value CodePoint)) : List (Text × Value) :=
  fields.filterMap fun f =>
    (WideText.narrow? f.1).map fun key => (key, f.2.narrow?.getD (plainValue key f.2))

/-- An entry made of characters alone. -/
def plain (entry : Value CodePoint) : Value :=
  entry.narrow?.getD
    (match entry with
    | .object fields => .object (plainFields fields)
    | v => kindOnly v)

/-- Whether the value under a key holds halves of characters. -/
def hasHalves (key : WideText) (entry : Value CodePoint) : Bool :=
  (entry.field? key).any fun v => v.narrow?.isNone

/-! ### Profiles -/

variable [Host]

/-- The profile that an entry describes. A name with halves of characters is left empty. -/
def wideProfile (entry : Value CodePoint) : Except Fault Profile :=
  (profile (plain entry)).map fun p =>
    if hasHalves "name" entry then { p with name := [] } else p

/-- The profiles of some entries, or the fault of the first that has one. -/
def wideProfilesOf : List (Value CodePoint) → Except Fault (List Profile)
  | [] => .ok []
  | entry :: rest =>
    match wideProfile entry with
    | .error fault => .error fault
    | .ok p => (wideProfilesOf rest).map (p :: ·)

/-- The profiles of the entries in a section of a configuration. -/
def wideSection (languages : Value CodePoint) : Except Fault (List Profile) :=
  if languages.isBlank then .ok []
  else
    match languages with
    | .list entries => wideProfilesOf entries
    | _ => .error .notAList

end Entry

end DeclIndex
