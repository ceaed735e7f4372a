import DeclIndex.Language.Basic

/-!
# Kotlin

## Main definitions

* `Language.kotlin` — the profile of Kotlin.
-/

namespace DeclIndex.Language

open Pattern Pattern.Expr

/-- The words that may stand before a type. -/
def kotlinModifiers : Expr :=
  modifiers ["public", "private", "protected", "internal", "open", "abstract", "sealed", "data",
    "enum", "annotation", "inner", "value", "inline", "final", "expect", "actual", "fun",
    "companion"]

/-- A primary constructor, perhaps. -/
def kotlinConstructor : Expr :=
  opt [gap0, opt [oneOf ["private", "protected", "internal", "public"], gap],
    opt ["constructor", gap0], parens]

/-- The profile of Kotlin. The gate for types is anchored, so that class references and object
expressions reach later rules. -/
def kotlin : Profile where
  name := "kotlin"
  extensions := [".kt", ".kts"]
  commentMarkers := braceComments
  docMarkers := braceDocs
  rules := [
    (declares .module [start, "package", gap, name dotted]).onWords ["package"],
    (declares .type [start, kotlinModifiers, keyword (oneOf ["class", "interface", "object"]), gap,
      name ident, optAngles, kotlinConstructor, opt [gap0, ":", gap0, parent dotted]]).on
      [start, kotlinModifiers, oneOf ["class", "interface", "object"], blank],
    (declares .function [start,
      modifiers ["public", "private", "protected", "internal", "open", "override", "abstract",
        "final", "suspend", "inline", "operator", "infix", "tailrec", "external", "actual",
        "expect"],
      keyword "fun", gap, opt [angles, gap0],
      opt [receiver (seq [dotted, optAngles, opt ["?"]]), "."], name ident, gap0, "("]).onWords
      ["fun"],
    (declares .constant [start, opt [oneOf ["private", "internal", "public"], gap], "const", gap,
      "val", gap, name ident]).onWords ["const"]]
  controlWords := including commonControlWords ["when", "is", "in"]
  attributes := some annotation
  visibilityWords := accessWords
  defaultVisibility := .pub

end DeclIndex.Language
