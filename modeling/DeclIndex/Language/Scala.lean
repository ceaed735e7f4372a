import DeclIndex.Language.Basic

/-!
# Scala

## Main definitions

* `Language.scala` — the profile of Scala.
-/

namespace DeclIndex.Language

open Pattern Pattern.Expr

/-- Words before a declaration, each perhaps with a qualifier in square brackets. -/
def scalaQualified (words : List Expr) : Expr :=
  many (seq [oneOf words, opt ["[", some1 wordChar, "]"], gap])

/-- The words that may stand before a type. -/
def scalaModifiers : Expr :=
  scalaQualified ["private", "protected", "final", "sealed", "abstract", "implicit", "case", "lazy",
    "override", "package"]

/-- The words for types. -/
def scalaTypeWords : Expr := oneOf ["class", "trait", "object", "enum"]

/-- The profile of Scala. -/
def scala : Profile where
  name := "scala"
  extensions := [".scala", ".sc"]
  commentMarkers := braceComments
  docMarkers := braceDocs
  rules := [
    (declares .module [start, "package", gap, name dotted]).on
      [start, "package", gap, .notAhead (seq ["object", edge])],
    (declares .type [start, scalaModifiers, keyword scalaTypeWords, gap, name ident, opt [brackets],
      optParens, opt [gap, "extends", gap, parent dotted]]).on
      [start, scalaModifiers, scalaTypeWords, blank],
    (declares .function [start,
      scalaQualified ["private", "protected", "final", "override", "implicit", "inline",
        "abstract"],
      keyword "def", gap,
      name (oneOf [ident,
        some1 (.set true [.kind .blank false, .char '(', .char '[', .char ':'])])]).onWords
      ["def"],
    (declares .matching [name (seq [ident, many (seq [".", ident])]), gap, "match", gap0,
      openBrace]).onWords ["match"]]
  declarationMarkers := ["class", "object", "trait"]
  attributes := some annotation
  visibilityWords := [("private", .priv), ("protected", .prot)]
  defaultVisibility := .pub

end DeclIndex.Language
