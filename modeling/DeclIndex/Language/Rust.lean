import DeclIndex.Language.Basic

/-!
# Rust

## Main definitions

* `Language.rust` — the profile of Rust.
-/

namespace DeclIndex.Language

open Pattern Pattern.Expr

/-- A visibility, perhaps, with what it is restricted to. -/
def rustVisibility : Expr :=
  opt ["pub", opt [parens], gap]

/-- The profile of Rust. The gate for types is anchored, so that functions named like a contextual
keyword reach the rule for functions; `default` opens an item of a specialised implementation. -/
def rust : Profile where
  name := "rust"
  extensions := [".rs"]
  commentMarkers := braceComments
  docMarkers := ["///", "//!", "//", "/*", "*/", "*"]
  rules := [
    (declares .module [start, rustVisibility, keyword "mod", gap, name ident]).onWords ["mod"],
    (declares .type [start, rustVisibility, optWord "unsafe",
      keyword (oneOf ["struct", "enum", "trait", "union", "type"]), gap, name ident, optAngles,
      opt [gap0, ":", gap0, opt ["?"], parent coloned]]).on
      [start, rustVisibility, optWord "unsafe", oneOf ["struct", "enum", "trait", "union", "type"],
        blank],
    (declares .function [start, rustVisibility,
      modifiers ["const", "async", "unsafe", "default",
        seq ["extern", opt [gap, "\"", many (.except "\""), "\""]]],
      keyword "fn", gap, name ident]).onWords ["fn"],
    (declares .constant [start, rustVisibility, keyword (oneOf ["const", "static"]), gap,
      optWord "mut", name ident, gap0, ":"]).onWords ["const", "static"],
    (declares .matching [edge, keyword "match", gap,
      name (seq [opt [.among "&*"], dotted, opt ["()"]]), gap0, openBrace]).onWords ["match"]]
  controlWords := including (without commonControlWords ["default"]) ["loop", "impl", "where"]
  attributes := some numberSignAttribute
  visibilityWords :=
    [("pub(crate)", .intern), ("pub(super)", .intern), ("pub(in", .intern), ("pub", .pub)]
  defaultVisibility := .priv

end DeclIndex.Language
