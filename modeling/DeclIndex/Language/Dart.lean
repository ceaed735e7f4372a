import DeclIndex.Language.Basic

/-!
# Dart

## Main definitions

* `Language.dart` — the profile of Dart.
-/

namespace DeclIndex.Language

open Pattern Pattern.Expr

/-- The words that may stand before a type. -/
def dartModifiers : Expr :=
  modifiers ["abstract", "base", "final", "interface", "sealed"]

/-- The words for types. -/
def dartTypeWords : Expr := oneOf ["class", "mixin", "enum", "extension"]

/-- The profile of Dart. -/
def dart : Profile where
  name := "dart"
  extensions := [".dart"]
  commentMarkers := braceComments
  docMarkers := braceDocs
  rules := [
    (declares .module [start, "library", gap, name dotted]).on [start, "library", blank],
    (declares .type [start, dartModifiers, keyword dartTypeWords, gap, name ident, optAngles,
      opt [gap, oneOf ["extends", "on", "with", "implements"], gap, parent dotted]]).on
      [start, dartModifiers, dartTypeWords, edge],
    (declares .function [start, optWord "static", opt [some1 (wordOr "<>?,"), gap],
      keyword (oneOf ["get", "set"]), gap, name ident]).on
      [edge, oneOf ["get", "set"], gap, letter, many wordChar, gap0, oneOf ["=>", openBrace, "("]],
    declares .function [start, opt [oneOf [seq ["const", gap], seq ["factory", gap]]],
      receiver capitalIdent, ".", name ident, gap0, "(",
      .notAhead (seq [rest, ")", gap0, ";", gap0, stop])],
    typedCallableOrArrow,
    (declares .constant [start, optWord "static", "const", gap, opt [some1 (wordOr "<>?"), gap],
      name ident, gap0, "="]).onWords ["const"]]
  controlWords := including commonControlWords ["super", "this", "rethrow"]
  attributes := some annotation
  nameRule := some .underscore

end DeclIndex.Language
