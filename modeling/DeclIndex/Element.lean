import DeclIndex.Text.Basic

/-!
# Declarations

What the index holds: one element for every declaration found, and one outline for every text.

## Main definitions

* `Kind`, `Visibility` — what was declared and who may use it, with the words used in reports.
* `Element` — a declaration.
* `Outline` — the declarations of one text.
-/

namespace DeclIndex

/-- What a declaration declares. Classes, structures, interfaces, traits and enumerations are all
types; `matching` is a match expression. -/
inductive Kind
  | module
  | type
  | function
  | method
  | constant
  | matching
  deriving DecidableEq, Repr

namespace Kind

/-- All kinds. -/
def all : List Kind :=
  [.module, .type, .function, .method, .constant, .matching]

/-- The word for a kind. -/
def word : Kind → Text
  | .module => "module"
  | .type => "type"
  | .function => "function"
  | .method => "method"
  | .constant => "constant"
  | .matching => "match"

/-- Functions and methods can be called. -/
def isCallable (k : Kind) : Bool :=
  k == .function || k == .method

/-- The kind with a given word. -/
def ofWord? (t : Text) : Option Kind :=
  all.find? fun k => k.word == t

end Kind

/-- Who may use a declaration. -/
inductive Visibility
  | pub
  | priv
  | prot
  | intern
  | unspecified
  deriving DecidableEq, Repr

namespace Visibility

/-- All visibilities. -/
def all : List Visibility :=
  [.pub, .priv, .prot, .intern, .unspecified]

/-- The word for a visibility. -/
def word : Visibility → Text
  | .pub => "public"
  | .priv => "private"
  | .prot => "protected"
  | .intern => "internal"
  | .unspecified => "unspecified"

/-- The visibility with a given word. -/
def ofWord? (t : Text) : Option Visibility :=
  all.find? fun v => v.word == t

end Visibility

/-- A declaration. Texts that do not apply are empty. -/
structure Element where
  kind : Kind
  name : Text
  visibility : Visibility := .unspecified
  /-- The supertype or interface named in the declaration. -/
  parent : Text := []
  /-- The comment that belongs to the declaration, on one line. -/
  documentation : Text := []
  /-- The number of the line, counted from one. -/
  line : Int := 0
  /-- The word that introduces the declaration. -/
  keyword : Text := []
  deriving DecidableEq, Repr

/-- The declarations of one text, in the order of their lines. -/
structure Outline where
  path : Text
  language : Text := []
  elements : List Element := []
  deriving DecidableEq, Repr

end DeclIndex
