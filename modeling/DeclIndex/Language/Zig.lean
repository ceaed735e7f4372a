import DeclIndex.Language.Basic

/-!
# Zig

## Main definitions

* `Language.zig` — the profile of Zig.
-/

namespace DeclIndex.Language

open Pattern Pattern.Expr

/-- The value of a constant that is a type, up to the word for it. -/
def zigTypeValue : Expr :=
  seq ["=", gap0, opt [oneOf [seq ["extern", gap], seq ["packed", gap]]]]

/-- The words for types. -/
def zigTypeWords : Expr := oneOf ["struct", "enum", "union", "opaque", "error"]

/-- The profile of Zig. Types are constants whose value is a type. -/
def zig : Profile where
  name := "zig"
  extensions := [".zig"]
  commentMarkers := ["//"]
  docMarkers := ["///", "//!", "//"]
  rules := [
    (declares .type [start, optWord "pub", "const", gap, name ident, gap0, zigTypeValue,
      keyword zigTypeWords, edge]).on [zigTypeValue, zigTypeWords, edge],
    (declares .function [start, optWord "pub", modifiers ["export", "extern", "inline", "noinline"],
      keyword "fn", gap, name ident, gap0, "("]).onWords ["fn"],
    { (declares .constant [start, optWord "pub", keyword "const", gap, name ident, gap0,
        opt [":", some1 (.except "=")], "=", .notAhead (seq [gap0, "@import"])]).onWords ["const"]
      with topLevel := true }]
  controlWords := including commonControlWords ["orelse", "errdefer", "defer", "comptime", "test"]
  visibilityWords := [("pub", .pub)]
  defaultVisibility := .priv

end DeclIndex.Language
