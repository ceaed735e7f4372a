import DeclIndex.Comment
import DeclIndex.Rule

/-!
# Profiles

A profile describes a language: how its comments and attributes look, which words open statements,
and an ordered table of rules. It holds nothing about any text.

## Main definitions

* `Profile` — the description of a language.
* `NameRule` — what the spelling of a name says about its visibility, with three such rules.
* `Profile.docDepth`, `Profile.isControlWord`, `Profile.isStatementWord`, `Profile.hasMarker` — the
  questions that the classification of a line asks of a profile.
-/

namespace DeclIndex

/-- How a function is told from a method. -/
inductive MethodDetection
  /-- A method has a receiver, or its line is indented. -/
  | indent
  /-- A method has a receiver. -/
  | receiver
  /-- As by receiver; indentation says nothing. -/
  | none
  deriving DecidableEq, Repr

namespace MethodDetection

/-- All ways. -/
def all : List MethodDetection :=
  [.indent, .receiver, .none]

/-- The word for a way. -/
def word : MethodDetection → Text
  | .indent => "indent"
  | .receiver => "receiver"
  | .none => "none"

/-- The way with a given word. -/
def ofWord? (t : Text) : Option MethodDetection :=
  all.find? fun m => m.word == t

end MethodDetection

/-- Where the comment of a declaration stands. -/
inductive Placement
  | before
  | after
  deriving DecidableEq, Repr

namespace Placement

/-- Both places. -/
def all : List Placement :=
  [.before, .after]

/-- The word for a place. -/
def word : Placement → Text
  | .before => "before"
  | .after => "after"

/-- The place with a given word. -/
def ofWord? (t : Text) : Option Placement :=
  all.find? fun p => p.word == t

end Placement

/-- What the spelling of a name says about its visibility. -/
abbrev NameRule := Text → Visibility

namespace NameRule

/-- Names with an upper-case initial are public, all others private. -/
def capitalized : NameRule := fun name =>
  if name.head?.any Text.isUpper then .pub else .priv

/-- Names with a leading underscore are private, but not those with two at both ends. -/
def underscore : NameRule := fun name =>
  if name.startsWith "__" && name.endsWith "__" then .pub
  else if name.startsWith "_" then .priv
  else .pub

/-- Names with a leading number sign are private; others say nothing. -/
def numberSign : NameRule := fun name =>
  if name.startsWith "#" then .priv else .unspecified

end NameRule

/-- Words that open statements in nearly every language with braces. -/
def commonControlWords : List Text :=
  ["if", "else", "elif", "for", "foreach", "while", "do", "switch", "case", "default", "catch",
    "try", "finally", "return", "throw", "break", "continue", "goto", "new", "delete", "sizeof",
    "typeof", "await", "yield", "with", "using", "assert"]

/-- Control words that can never name a declaration. Others, such as `new` and `delete`, are names
of methods in some languages. -/
def statementWords : List Text :=
  ["if", "else", "elif", "elsif", "for", "foreach", "while", "until", "do", "switch", "case",
    "catch", "try", "finally", "return", "throw"]

/-- The description of a language. -/
structure Profile where
  name : Text
  extensions : List Text
  /-- The rules, tried in order; the first that applies classifies the line. -/
  rules : List Rule
  commentMarkers : List Text := ["//", "/*", "*"]
  docMarkers : List Text := Comment.defaultMarkers
  /-- Words that open statements. A line that opens with one declares nothing unless it holds a
  declaration marker. -/
  controlWords : List Text := commonControlWords
  declarationMarkers : List Text := []
  /-- Attributes, which are stripped from the start of a line. -/
  attributes : Option Pattern := none
  /-- Words before a declaration that say who may use it, the first one found counting. -/
  visibilityWords : List (Text × Visibility) := []
  nameRule : Option NameRule := none
  defaultVisibility : Visibility := .unspecified
  methodDetection : MethodDetection := .indent
  docPlacement : Placement := .before
  /-- The number of comment lines that are read for a module or a type. -/
  typeDocDepth : Int := 5
  /-- The number of comment lines that are read for anything else. -/
  otherDocDepth : Int := 2
  /-- Whether case makes no difference. -/
  fold : Bool := false

namespace Profile

/-- The number of comment lines that are read for a declaration of a kind. -/
def docDepth (p : Profile) (k : Kind) : Int :=
  if k = .module || k = .type then p.typeDocDepth else p.otherDocDepth

/-- A word as it is compared with the words of the profile. -/
def spelling (p : Profile) (word : Text) : Text :=
  if p.fold then Text.lower word else word

/-- Whether a word opens statements. -/
def isControlWord (p : Profile) (word : Text) : Bool :=
  p.controlWords.contains (p.spelling word)

/-- Whether a word opens statements and can never name a declaration. -/
def isStatementWord (p : Profile) (word : Text) : Bool :=
  statementWords.contains (p.spelling word) && p.isControlWord word

/-- Whether a line holds one of the words that only declarations have. -/
def hasMarker (p : Profile) (line : Text) : Bool :=
  (Pattern.ofWords p.fold p.declarationMarkers).any fun m => m.occursIn line

end Profile

end DeclIndex
