import DeclIndex.Language.Basic

/-!
# C

## Main definitions

* `Language.c` — the profile of C.
-/

namespace DeclIndex.Language

open Pattern Pattern.Expr

/-- The profile of C. The rule for types has no gate, so that a function which returns a structure
reaches the rule for functions. -/
def c : Profile where
  name := "c"
  extensions := [".c", ".h"]
  commentMarkers := braceComments
  docMarkers := braceDocs
  rules := [
    declares .type [start, optWord "typedef", keyword (oneOf ["struct", "union", "enum"]), gap,
      name ident, gap0, bodyToEnd],
    typedCallable,
    definedConstant]
  visibilityWords := [("static", .priv), ("extern", .pub)]
  defaultVisibility := .pub

end DeclIndex.Language
