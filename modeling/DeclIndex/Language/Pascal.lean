import DeclIndex.Language.Basic

/-!
# Pascal

## Main definitions

* `Language.pascal` — the profile of Pascal.
-/

namespace DeclIndex.Language

open Pattern Pattern.Expr

/-- A rule without a gate in which case makes no difference. -/
def declaresFolded (k : Kind) (parts : List Expr) : Rule :=
  { declares k parts with pattern := patternOf true (seq parts) }

/-- The words for units. -/
def pascalUnitWords : Expr := oneOf ["program", "unit", "library", "package"]

/-- What follows the equals sign of a class, a record or an interface. -/
def pascalTypeBody : List Expr :=
  [start, gap0, modifiers ["packed", "sealed", "abstract", "bitpacked"],
    keyword (oneOf ["class", "record", "object", "interface", "dispinterface"]), edge,
    .notAhead (seq [gap, "of", edge]),
    opt [gap0, opt [oneOf [seq ["sealed", gap], seq ["abstract", gap]]], "(", gap0, parent dotted]]

/-- The profile of Pascal, in which case makes no difference. What follows the equals sign of a type
may stand on a later line. -/
def pascal : Profile where
  name := "pascal"
  extensions := [".pas", ".pp", ".dpr", ".lpr", ".dpk"]
  commentMarkers := ["//", "\x7b", "(*"]
  docMarkers := ["//", "\x7b", "\x7d", "(*", "*)"]
  rules := [
    (declaresFolded .module [start, keyword pascalUnitWords, gap, name dotted, gap0, ";"]).on
      [start, pascalUnitWords, blank],
    { declaresFolded .type [start, optWord "type", name ident, optAngles, gap0, "=",
        .notAhead "="] with
      confirm := some (patternOf true (seq pascalTypeBody))
      lookahead := 10
      lookahead_le := by decide },
    (declaresFolded .function [start, optWord "class",
      keyword (oneOf ["function", "procedure", "constructor", "destructor", "operator"]), gap,
      opt [receiver (seq [ident, optAngles]), "."], name ident]).onWords
      ["function", "procedure", "constructor", "destructor", "operator"]]
  controlWords :=
    ["if", "then", "else", "for", "to", "downto", "do", "while", "repeat", "until", "case", "of",
      "with", "begin", "end", "try", "except", "finally", "raise", "exit", "goto", "inherited",
      "uses", "var"]
  fold := true

end DeclIndex.Language
