import DeclIndex.Language.Basic

/-!
# Swift

## Main definitions

* `Language.swift` — the profile of Swift.
-/

namespace DeclIndex.Language

open Pattern Pattern.Expr

/-- The words that may stand before a declaration. -/
def swiftModifiers : Expr :=
  modifiers ["public", "private", "fileprivate", "internal", "open", "final", "indirect", "static",
    "class", "override", "mutating", "nonmutating", "convenience", "required", "nonisolated",
    "dynamic"]

/-- The words for types. -/
def swiftTypeWords : Expr :=
  oneOf ["class", "struct", "enum", "protocol", "actor", "extension"]

/-- The profile of Swift. The word `class` is both a modifier and a word for types; the gate for
types leaves class members to later rules. -/
def swift : Profile where
  name := "swift"
  extensions := [".swift"]
  commentMarkers := braceComments
  docMarkers := braceDocs
  rules := [
    (declares .type [start, swiftModifiers, keyword swiftTypeWords, gap,
      name (seq [ident, many (seq [".", ident])]), optAngles,
      opt [gap0, ":", gap0, parent dotted]]).on
      [start, swiftModifiers, swiftTypeWords, gap,
        .notAhead (oneOf [seq ["func", edge], seq ["var", edge], seq ["let", edge]]), letter],
    (declares .function [start, swiftModifiers, keyword "func", gap,
      name (oneOf [ident, some1 (.set true [.kind .blank false, .char '(', .char '<'])])]).onWords
      ["func"],
    (declares .function [start, swiftModifiers, name (oneOf ["init", "deinit"]), edge, opt ["?"],
      gap0, .among ['(', '<', '{']]).onWords ["init", "deinit"]]
  controlWords := including commonControlWords ["guard", "defer", "repeat", "let", "var"]
  attributes := some simpleAnnotation
  visibilityWords :=
    [("open", .pub), ("public", .pub), ("fileprivate", .priv), ("private", .priv),
      ("internal", .intern)]
  defaultVisibility := .intern

end DeclIndex.Language
