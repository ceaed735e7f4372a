import DeclIndex.Language.Basic

/-!
# Rules of the script languages

JavaScript and TypeScript share their rules for functions, methods and constants.

## Main definitions

* `Language.scriptArrow`, `Language.scriptFunction`, `Language.scriptMethod` — the rules for what
  can be called.
* `Language.scriptConstant` — the rule for constants.
* `Language.scriptControlWords` — the words that open statements.
-/

namespace DeclIndex.Language

open Pattern Pattern.Expr

/-- The words that may stand before a type. -/
def scriptTypeWords : Expr :=
  seq [optWord "export", optWord "default", optWord "declare", optWord "abstract"]

/-- A superclass or an interface, perhaps. -/
def scriptParent : Expr :=
  opt [gap, oneOf ["extends", "implements"], gap, parent (some1 (wordOr ".$"))]

/-- A type after a colon up to the next equals sign, perhaps. -/
def scriptType : Expr :=
  opt [":", some1 (.except "=")]

/-- A variable that holds a function or an arrow function. -/
def scriptArrow : Rule :=
  declares .function [start, optWord "export", oneOf ["const", "let", "var"], gap,
    name scriptIdent, gap0, scriptType, "=", gap0, optWord "async",
    oneOf [seq ["function", edge],
      seq [parens, gap0, opt [":", gap0, some1 (.except "=")], "=>"],
      seq [scriptIdent, gap0, "=>"]]]

/-- A named function, also within an expression. -/
def scriptFunction : Rule :=
  (declares .function [oneOf [start, .set false (.kind .blank false :: "=(,:".toList.map .char)],
    optWord "export", optWord "default", optWord "async", keyword "function", gap0, opt ["*"], gap0,
    name scriptIdent, gap0, optAngles, gap0, "("]).onWords ["function"]

/-- A method with its body opened on the line. -/
def scriptMethod : Rule :=
  declares .function [start,
    modifiers ["public", "private", "protected", "static", "async", "abstract", "override",
      "readonly", "declare", "get", "set"],
    opt ["*"], name (seq [opt ["#"], scriptIdent]), gap0, optAngles, gap0, "(", rest, ")", gap0,
    opt [":", gap0, .loop 1 none true (.except ['=', '{'])], gap0, openBrace, gap0,
    opt [closeBrace], gap0, stop]

/-- A constant in capitals. -/
def scriptConstant : Rule :=
  (declares .constant [start, optWord "export", "const", gap, name upperIdent, gap0, scriptType,
    "="]).onWords ["const"]

/-- The words that open statements. `new` and `delete` are common names of methods; as operators
they never open a line shaped like a method. -/
def scriptControlWords : List Text :=
  without commonControlWords ["new", "delete"]

end DeclIndex.Language
