import DeclIndex.Language.Basic

/-!
# Ruby

## Main definitions

* `Language.ruby` — the profile of Ruby.
-/

namespace DeclIndex.Language

open Pattern Pattern.Expr

/-- The words that open statements, here and in Crystal. -/
def rubyControlWords : List Text :=
  ["if", "unless", "else", "elsif", "while", "until", "for", "case", "when", "begin", "rescue",
    "ensure", "return", "yield", "raise", "loop", "do", "break", "next", "redo", "retry", "then",
    "in"]

/-- A qualified constant. -/
def rubyConstant : Expr := seq [capital, many (wordOr ":")]

/-- A superclass, perhaps. -/
def rubyParent : Expr := opt [gap0, "<", gap0, parent coloned]

/-- An identifier, perhaps with the mark of a predicate, a dangerous method or a setter. -/
def rubyMethodName : Expr := seq [letter, many wordChar, opt [.among "?!="]]

/-- A constant in capitals. -/
def rubyConstantRule : Rule :=
  declares .constant [start, name upperIdent, gap0, "=", .notAhead "="]

/-- The profile of Ruby. -/
def ruby : Profile where
  name := "ruby"
  extensions := [".rb", ".rake", ".gemspec"]
  commentMarkers := ["#"]
  docMarkers := ["#"]
  rules := [
    (declares .module [start, keyword "module", gap, name rubyConstant]).onWords ["module"],
    (declares .type [start, keyword "class", gap, name rubyConstant, rubyParent]).on
      [start, "class", blank],
    (declares .function [start,
      opt [oneOf ["private", "protected", "public", "module_function"], gap], keyword "def", gap,
      opt [receiver (oneOf ["self", capitalIdent]), "."],
      name (oneOf [rubyMethodName, seq ["[]", opt ["="]],
        some1 (.among "+-*/%<>=!~^&|")])]).onWords ["def"],
    rubyConstantRule]
  controlWords := rubyControlWords
  visibilityWords := accessWords.take 3
  defaultVisibility := .pub

end DeclIndex.Language
