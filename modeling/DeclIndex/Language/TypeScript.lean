import DeclIndex.Language.Script

/-!
# TypeScript

## Main definitions

* `Language.typescript` — the profile of TypeScript.
-/

namespace DeclIndex.Language

open Pattern Pattern.Expr

/-- The profile of TypeScript. -/
def typescript : Profile where
  name := "typescript"
  extensions := [".ts", ".tsx", ".mts", ".cts"]
  commentMarkers := braceComments
  docMarkers := braceDocs
  rules := [
    (declares .module [start, optWord "export", optWord "declare",
      keyword (oneOf ["namespace", "module"]), gap, name (some1 (wordOr ".$"))]).on
      [start, optWord "export", optWord "declare", oneOf ["namespace", "module"], blank],
    (declares .type [start, scriptTypeWords, optWord "const",
      keyword (oneOf ["class", "interface", "enum"]), gap, name scriptIdent, optAngles,
      scriptParent]).on
      [start, scriptTypeWords, optWord "const", oneOf ["class", "interface", "enum"], blank],
    (declares .type [start, optWord "export", optWord "declare", keyword "type", gap,
      name scriptIdent]).on
      [start, optWord "export", optWord "declare", "type", gap,
        .set false (letters ++ [.char '$'])],
    scriptArrow,
    scriptFunction,
    scriptMethod,
    scriptConstant]
  controlWords := scriptControlWords
  declarationMarkers := ["function"]
  attributes := some annotation
  visibilityWords :=
    [("private", .priv), ("protected", .prot), ("public", .pub), ("export", .pub)]
  nameRule := some .numberSign

end DeclIndex.Language
