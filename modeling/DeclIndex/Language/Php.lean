import DeclIndex.Language.Basic

/-!
# PHP

## Main definitions

* `Language.php` — the profile of PHP.
-/

namespace DeclIndex.Language

open Pattern Pattern.Expr

/-- The words that may stand before a type. -/
def phpModifiers : Expr := modifiers ["abstract", "final", "readonly"]

/-- The words for types. -/
def phpTypeWords : Expr := oneOf ["class", "interface", "trait", "enum"]

/-- The profile of PHP. -/
def php : Profile where
  name := "php"
  extensions := [".php", ".phtml"]
  commentMarkers := braceComments
  docMarkers := braceDocs
  rules := [
    (declares .module [start, "namespace", gap, name (some1 (wordOr "\\"))]).onWords
      ["namespace"],
    (declares .type [start, phpModifiers, keyword phpTypeWords, gap, name ident,
      opt [gap0, ":", gap0, some1 wordChar],
      opt [gap, oneOf ["extends", "implements"], gap, parent (some1 (wordOr "\\"))]]).on
      [start, phpModifiers, phpTypeWords, blank],
    (declares .function [start,
      modifiers ["public", "private", "protected", "static", "abstract", "final"],
      keyword "function", gap, opt ["&"], name ident, gap0, "("]).onWords ["function"],
    (declares .constant [start, modifiers ["public", "private", "protected", "final"], "const", gap,
      opt [some1 wordChar, gap], name ident, gap0, "="]).onWords ["const"],
    (declares .constant [start, "define", gap0, "(", gap0, .among "'\"", name (some1 wordChar),
      .among "'\""]).onWords ["define"]]
  controlWords := including commonControlWords
    ["elseif", "echo", "print", "require", "require_once", "include", "include_once", "unset",
      "isset", "empty", "list", "match", "fn"]
  declarationMarkers := ["function"]
  attributes := some numberSignAttribute
  visibilityWords := accessWords.take 3
  defaultVisibility := .pub

end DeclIndex.Language
