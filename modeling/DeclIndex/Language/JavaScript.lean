import DeclIndex.Language.Script

/-!
# JavaScript

## Main definitions

* `Language.javascript` — the profile of JavaScript.
-/

namespace DeclIndex.Language

open Pattern Pattern.Expr

/-- The profile of JavaScript. -/
def javascript : Profile where
  name := "javascript"
  extensions := [".js", ".jsx", ".mjs", ".cjs"]
  commentMarkers := braceComments
  docMarkers := braceDocs
  rules := [
    (declares .type [start, scriptTypeWords, keyword "class", gap, name scriptIdent, optAngles,
      scriptParent]).on [start, scriptTypeWords, "class", blank],
    scriptArrow,
    scriptFunction,
    scriptMethod,
    scriptConstant]
  controlWords := scriptControlWords
  declarationMarkers := ["function"]
  visibilityWords := [("export", .pub)]
  nameRule := some .numberSign

end DeclIndex.Language
