import DeclIndex.Language.Basic

/-!
# Python

## Main definitions

* `Language.python` — the profile of Python.
-/

namespace DeclIndex.Language

open Pattern Pattern.Expr

/-- The profile of Python. Documentation strings stand below the declaration. -/
def python : Profile where
  name := "python"
  extensions := [".py", ".pyw", ".pyi"]
  commentMarkers := ["#"]
  docMarkers := Comment.quoteMarkers
  rules := [
    (declares .type [start, keyword "class", gap, name ident, gap0, opt [brackets], gap0,
      opt ["(", gap0, parent dotted, .ahead (seq [gap0, .among ",)["])]]).onWords ["class"],
    (declares .function [start, optWord "async", keyword "def", gap, name ident, gap0,
      .among "(["]).onWords ["def"],
    { declares .constant [start, name upperIdent, gap0, opt [":", some1 (.except "=")], "=",
        .notAhead "="] with topLevel := true }]
  controlWords :=
    ["if", "elif", "else", "for", "while", "try", "except", "finally", "with", "return", "raise",
      "yield", "lambda", "assert", "del", "pass", "import", "from", "global", "nonlocal", "match",
      "case", "await"]
  attributes := some (pattern ["@", dotted, opt ["(", rest, ")"]])
  nameRule := some .underscore
  docPlacement := .after

end DeclIndex.Language
