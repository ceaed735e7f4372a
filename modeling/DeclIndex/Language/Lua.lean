import DeclIndex.Language.Basic

/-!
# Lua

## Main definitions

* `Language.lua` — the profile of Lua.
-/

namespace DeclIndex.Language

open Pattern Pattern.Expr

/-- An owner before a dot or a colon, perhaps. -/
def luaOwner : Expr :=
  opt [receiver (seq [letter, many (wordOr ".")]), .among ".:"]

/-- The profile of Lua. A table assigned to a capitalised name counts as a type. -/
def lua : Profile where
  name := "lua"
  extensions := [".lua"]
  commentMarkers := ["--"]
  docMarkers := ["---", "--", "[[", "]]"]
  rules := [
    (declares .module [start, "module", gap0, opt ["("], gap0, .among "\"'", name dotted]).on
      [start, "module", edge],
    declares .type [start, optWord "local", name capitalIdent, gap0, "=", gap0,
      oneOf [seq [openBrace, gap0, closeBrace],
        seq ["setmetatable", gap0, "(", gap0, openBrace, gap0, closeBrace, gap0, ",", gap0,
          parent (seq [letter, many (wordOr ".")])]]],
    (declares .function [start, optWord "local", keyword "function", gap, luaOwner,
      name (seq [letter, many wordChar]), gap0, "("]).on
      [start, optWord "local", "function", blank],
    declares .function [start, optWord "local", luaOwner, name (seq [letter, many wordChar]), gap0,
      "=", gap0, keyword "function", gap0, "("]]
  controlWords := including commonControlWords ["then", "elseif", "end", "repeat", "until", "not"]
  visibilityWords := [("local", .priv)]
  defaultVisibility := .pub
  methodDetection := .receiver

end DeclIndex.Language
