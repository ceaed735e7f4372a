import DeclIndex.Language.Basic

/-!
# Go

## Main definitions

* `Language.go` — the profile of Go.
-/

namespace DeclIndex.Language

open Pattern Pattern.Expr

/-- The profile of Go. The second rule for types is for the members of a group of types; it is
anchored, so that types within a parameter list leave the line to the rule for functions. -/
def go : Profile where
  name := "go"
  extensions := [".go"]
  commentMarkers := braceComments
  docMarkers := braceDocs
  rules := [
    (declares .module [start, "package", gap, name ident]).onWords ["package"],
    (declares .type [start, "type", gap, name ident, opt [brackets], gap, opt ["=", gap0],
      keyword (oneOf ["struct", "interface", "func", "map", "chan",
        seq [opt ["*"], some1 (wordOr ".[]")]])]).on [start, "type", blank],
    (declares .type [start, name ident, gap, keyword (oneOf ["struct", "interface"]), gap0,
      openBrace, .notAhead (seq [gap0, closeBrace])]).on
      [start, some1 wordChar, gap, oneOf ["struct", "interface"], gap0, openBrace,
        .notAhead (seq [gap0, closeBrace])],
    (declares .function [start, keyword "func", gap,
      opt ["(", gap0, opt [some1 wordChar, gap], opt ["*"], receiver (some1 wordChar),
        opt [brackets], gap0, ")", gap0],
      name ident, gap0, opt [brackets], "("]).onWords ["func"],
    (declares .constant [start, "const", gap, name ident, edge, opt [gap, some1 (wordOr ".[]*")],
      gap0, "="]).onWords ["const"]]
  controlWords := including commonControlWords ["go", "defer", "select", "range", "fallthrough"]
  nameRule := some .capitalized
  methodDetection := .receiver

end DeclIndex.Language
