import DeclIndex.Language.Basic

/-!
# D

## Main definitions

* `Language.d` — the profile of D.
-/

namespace DeclIndex.Language

open Pattern Pattern.Expr

/-- The words that may stand before a declaration. -/
def dModifiers : Expr :=
  modifiers ["public", "private", "protected", "package", "export", "abstract", "final", "static",
    "shared", "immutable", "const", seq ["extern", parens]]

/-- The profile of D. An enumeration with a value is a constant and no type. -/
def d : Profile where
  name := "d"
  extensions := [".d", ".di"]
  commentMarkers := ["//", "/*", "*", "/+", "+"]
  docMarkers := ["///", "//", "/*", "*/", "*", "/++", "/+", "+/", "+"]
  rules := [
    (declares .module [start, "module", gap, name dotted, gap0, ";"]).onWords ["module"],
    (declares .type [start, dModifiers,
      keyword (oneOf ["class", "struct", "interface", "union", "enum",
        seq ["mixin", gap, "template"], "template"]),
      gap, name ident, edge, .notAhead (seq [gap0, "="]), optParens,
      opt [gap0, ":", gap0, parent dotted]]).on
      [oneOf [
        seq [start, dModifiers,
          oneOf ["class", "struct", "interface", "union", "template",
            seq ["mixin", gap, "template"]], edge],
        seq [start, dModifiers, "enum", edge,
          .notAhead (seq [many (.except ['{', '(', ':']), "="])]]],
    (declares .function [start, name (seq [opt ["~"], "this"]), gap0, "(", noPrototype]).on
      [start, opt ["~"], "this", gap0, "("],
    typedCallable,
    (declares .constant [start, dModifiers, keyword (oneOf ["enum", "immutable"]), gap,
      opt [some1 (wordOr "[]!."), gap], name ident, gap0, "="]).onWords ["enum", "immutable"]]
  controlWords := including (without commonControlWords ["delete", "new"])
    ["scope", "version", "debug"]
  attributes := some simpleAnnotation
  visibilityWords :=
    [("public", .pub), ("export", .pub), ("private", .priv), ("protected", .prot),
      ("package", .intern)]
  defaultVisibility := .pub

end DeclIndex.Language
