import DeclIndex.Language.Basic

/-!
# Java

## Main definitions

* `Language.java` — the profile of Java.
-/

namespace DeclIndex.Language

open Pattern Pattern.Expr

/-- The profile of Java. The word `default` also opens a method of an interface. -/
def java : Profile where
  name := "java"
  extensions := [".java"]
  commentMarkers := braceComments
  docMarkers := braceDocs
  rules := [
    (declares .module [start, "package", gap, name dotted, gap0, ";"]).onWords ["package"],
    (declares .type [start,
      modifiers ["public", "private", "protected", "static", "final", "abstract", "sealed",
        "non-sealed", "strictfp"],
      keyword (oneOf ["class", "interface", "enum", "record", "@interface"]), gap, name ident,
      optAngles, optParens,
      opt [gap, oneOf ["extends", "implements"], gap, parent dotted]]).on
      [oneOf [
        seq [.notBehind 1 (wordOr "@."), oneOf ["class", "interface", "enum"], edge],
        seq ["@interface", edge],
        seq [edge, "record", gap, capital]]],
    typedCallable,
    (declares .constant [start, opt [oneOf ["public", "private", "protected"], gap],
      oneOf [seq ["static", gap, "final"], seq ["final", gap, "static"]], gap,
      some1 (wordOr "<>[],.?"), gap, name upperIdent, gap0, "="]).onWords ["final"]]
  controlWords := including (without commonControlWords ["default"])
    ["synchronized", "super", "this"]
  attributes := some annotation
  visibilityWords := accessWords.take 3

end DeclIndex.Language
