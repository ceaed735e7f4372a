import DeclIndex.Language.Basic

/-!
# C#

## Main definitions

* `Language.csharp` — the profile of C#.
-/

namespace DeclIndex.Language

open Pattern Pattern.Expr

/-- The words that may stand before a type. -/
def csharpModifiers : Expr :=
  modifiers ["public", "private", "protected", "internal", "static", "sealed", "abstract",
    "partial", "readonly", "unsafe", "new", "file", "ref"]

/-- Words for classes, interfaces, structures, enumerations and records. -/
def csharpTypeWords : Expr :=
  oneOf [seq ["record", gap, "struct"], seq ["record", gap, "class"], "record", "class",
    "interface", "struct", "enum"]

/-- The profile of C#. The gate for types is anchored, so that a constraint on a type parameter does
not claim the line. -/
def csharp : Profile where
  name := "csharp"
  extensions := [".cs"]
  commentMarkers := braceComments
  docMarkers := braceDocs
  rules := [
    (declares .module [start, "namespace", gap, name dotted]).onWords ["namespace"],
    (declares .type [start, csharpModifiers, keyword csharpTypeWords, gap, name ident, optAngles,
      optParens, opt [gap0, ":", gap0, parent (seq [dotted, optAngles])]]).on
      [start, csharpModifiers,
        oneOf [seq [oneOf ["class", "interface", "struct", "enum"], blank],
          seq ["record", gap, opt [oneOf [seq ["struct", gap], seq ["class", gap]]], capital]]],
    typedCallableOrArrow,
    (declares .constant [start,
      modifiers ["public", "private", "protected", "internal", "static", "new"], "const", gap,
      some1 (wordOr "<>[],.?"), gap, name ident, gap0, "="]).onWords ["const"]]
  controlWords := including commonControlWords
    ["lock", "fixed", "checked", "unchecked", "nameof", "when"]
  attributes := some bracketAttribute
  visibilityWords :=
    [("public", .pub), ("protected", .prot), ("internal", .intern), ("private", .priv)]

end DeclIndex.Language
