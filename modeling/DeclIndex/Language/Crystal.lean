import DeclIndex.Language.Ruby

/-!
# Crystal

## Main definitions

* `Language.crystal` — the profile of Crystal.
-/

namespace DeclIndex.Language

open Pattern Pattern.Expr

/-- The words for types. -/
def crystalTypeWords : Expr := oneOf ["class", "struct", "enum", "annotation"]

/-- The profile of Crystal. -/
def crystal : Profile where
  name := "crystal"
  extensions := [".cr"]
  commentMarkers := ["#"]
  docMarkers := ["#"]
  rules := [
    (declares .module [start, optWord "private", keyword (oneOf ["module", "lib"]), gap,
      name rubyConstant]).on [start, optWord "private", oneOf ["module", "lib"], blank],
    (declares .type [start, modifiers ["private", "abstract"], keyword crystalTypeWords, gap,
      name rubyConstant, opt [parens], rubyParent]).on
      [start, modifiers ["private", "abstract"], crystalTypeWords, blank],
    (declares .function [start, modifiers ["private", "protected", "abstract"],
      keyword (oneOf ["def", "macro"]), gap, opt [receiver "self", "."],
      name (oneOf [rubyMethodName, some1 (.among "+-*/%<>=!~^&|[]")])]).onWords ["def", "macro"],
    rubyConstantRule]
  controlWords := rubyControlWords
  attributes := some (pattern ["@", brackets])
  visibilityWords := [("private", .priv), ("protected", .prot)]
  defaultVisibility := .pub

end DeclIndex.Language
