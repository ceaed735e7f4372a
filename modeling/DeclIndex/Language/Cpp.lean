import DeclIndex.Language.Basic

/-!
# C++

## Main definitions

* `Language.cpp` — the profile of C++.
-/

namespace DeclIndex.Language

open Pattern Pattern.Expr

/-- Words for enumerations, classes and structures. -/
def cppTypeWords : Expr :=
  oneOf [seq ["enum", gap, "class"], seq ["enum", gap, "struct"], "class", "struct", "union",
    "enum"]

/-- A base class, perhaps, with what follows it up to the body. -/
def cppBase : Expr :=
  opt [":", gap0, modifiers ["public", "private", "protected", "virtual"],
    parent (seq [coloned, optAngles]), many (.except [';', '{'])]

/-- The profile of C++. -/
def cpp : Profile where
  name := "cpp"
  extensions := [".cpp", ".cc", ".cxx", ".c++", ".hpp", ".hh", ".hxx", ".h++", ".ipp", ".tpp"]
  commentMarkers := braceComments
  docMarkers := braceDocs
  rules := [
    (declares .module [start, optWord "inline", "namespace", gap, name coloned]).onWords
      ["namespace"],
    declares .type [start, opt ["template", gap0, "<", rest, ">", gap0], optWord "export",
      keyword cppTypeWords, gap,
      opt [.set false [.range 'A' 'Z', .char '_'],
        many (.set false [.range 'A' 'Z', .range '0' '9', .char '_']), gap],
      name ident, opt [gap, "final"], gap0, cppBase, gap0, bodyToEnd],
    declares .function [start, receiver (seq [letter, many wordChar, optAngles]), "::",
      name (seq [opt ["~"], letter, many wordChar]), gap0, "(", noPrototype],
    typedCallable,
    (declares .constant [start, optWord "static", optWord "inline", oneOf ["constexpr", "const"],
      gap, some1 (wordOr ":<>"), gap, name upperIdent, gap0, .among ['=', '{']]).onWords
      ["constexpr", "const"],
    definedConstant]
  controlWords := including commonControlWords ["static_assert", "co_return", "co_await"]

end DeclIndex.Language
