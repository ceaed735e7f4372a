import DeclIndex.Profile.Basic

/-!
# Parts of language tables

What the rules of several languages share: identifiers, brackets, attributes, and the header of a
function that begins with its type.

The groups of every rule are the introducing word, the name, the supertype and the receiver, in this
order. Patterns run against a trimmed line without its attributes, so they are anchored at the start
of the line and not at its indentation.

A rule with a gate claims every line its gate lets in. Gates for words that also stand inside
expressions are therefore anchored like the rule itself.

## Main definitions

* `Language.pattern` — a pattern whose groups are the four roles.
* `Language.declares` — a rule, with `Rule.onWords` and `Rule.on` to give it a gate.
* `Language.ident`, `Language.typedCallable`, … — shared expressions.
-/

namespace DeclIndex

open Pattern Pattern.Expr

/-- Whether a group occurs in an expression. -/
def Pattern.Expr.hasGroup (i : Nat) : Expr → Bool
  | .group j p => i == j || p.hasGroup i
  | .cat p q | .alt p q | .ifGroup _ p q => p.hasGroup i || q.hasGroup i
  | .loop _ _ _ p | .ahead p | .notAhead p | .behind _ p | .notBehind _ p | .atomic p
  | .withCase _ p => p.hasGroup i
  | _ => false

namespace Language

/-! ### Roles -/

/-- The names of the four groups. -/
def roles : List (Text × Nat) :=
  [("keyword", 1), ("name", 2), ("parent", 3), ("receiver", 4)]

/-- The word that introduces the declaration. -/
def keyword (p : Expr) : Expr := .group 1 p

/-- The declared name. -/
def name (p : Expr) : Expr := .group 2 p

/-- The supertype. -/
def parent (p : Expr) : Expr := .group 3 p

/-- What the declaration belongs to. -/
def receiver (p : Expr) : Expr := .group 4 p

/-- The pattern of an expression with some of the four groups. -/
def patternOf (fold : Bool) (e : Expr) : Pattern :=
  ⟨e, roles.filter fun r => e.hasGroup r.2, roles.length, fold⟩

/-- The pattern of parts one after the other, with case told apart. -/
def pattern (parts : List Expr) : Pattern :=
  patternOf false (seq parts)

/-- A rule without a gate. -/
def declares (k : Kind) (parts : List Expr) : Rule where
  kind := k
  pattern := pattern parts

end Language

/-- A rule that claims the lines on which one of the words stands. -/
def Rule.onWords (r : Rule) (words : List Text) : Rule :=
  { r with gate := Pattern.ofWords r.pattern.fold words }

/-- A rule that claims the lines in which the gate is found. -/
def Rule.on (r : Rule) (gate : List Expr) : Rule :=
  { r with gate := some (Language.patternOf r.pattern.fold (seq gate)) }

namespace Language

/-! ### Words and names -/

/-- Words before a declaration, each followed by white space, in any number and order. -/
def modifiers (words : List Expr) : Expr :=
  many (seq [oneOf words, gap])

/-- A word that may stand before a declaration. -/
def optWord (w : Expr) : Expr :=
  opt [w, gap]

/-- The letters of ASCII and the underscore. -/
def letters : List Member :=
  [.range 'A' 'Z', .range 'a' 'z', .char '_']

/-- A letter of ASCII or an underscore. -/
def letter : Expr := .set false letters

/-- A capital letter of ASCII. -/
def capital : Expr := .set false [.range 'A' 'Z']

/-- An identifier. -/
def ident : Expr := seq [letter, many wordChar]

/-- An identifier with a capital initial. -/
def capitalIdent : Expr := seq [capital, many wordChar]

/-- An identifier in capitals. -/
def upperIdent : Expr :=
  seq [capital, many (.set false [.range 'A' 'Z', .range '0' '9', .char '_'])]

/-- An identifier in which dollar signs are letters. -/
def scriptIdent : Expr :=
  seq [.set false (letters ++ [.char '$']), many (wordOr "$")]

/-- Word characters and dots. -/
def dotted : Expr := some1 (wordOr ".")

/-- Word characters and colons. -/
def coloned : Expr := some1 (wordOr ":")

/-! ### Brackets -/

/-- An opening brace. -/
def openBrace : Expr := .char '{'

/-- A closing brace. -/
def closeBrace : Expr := .char '}'

/-- Angle brackets with what is between them. -/
def angles : Expr := seq ["<", many (.except ">"), ">"]

/-- Parentheses with what is between them. -/
def parens : Expr := seq ["(", many (.except ")"), ")"]

/-- Square brackets with what is between them. -/
def brackets : Expr := seq ["[", many (.except "]"), "]"]

/-- Type parameters, perhaps. -/
def optAngles : Expr := opt [angles]

/-- A parameter list, perhaps after white space, or none. -/
def optParens : Expr := opt [gap0, parens]

/-- An opening brace with the rest of the line, or neither, and the end of the line. -/
def bodyToEnd : Expr := seq [opt [openBrace, rest], stop]

/-! ### Comments and attributes -/

/-- Comment markers of the languages with braces. -/
def braceComments : List Text := ["//", "/*", "*"]

/-- Documentation markers of the languages with braces. -/
def braceDocs : List Text := ["///", "//", "/*", "*/", "*"]

/-- An annotation: an at sign and a qualified name, perhaps with arguments. -/
def annotation : Pattern := pattern ["@", some1 (wordOr ".:"), opt [parens]]

/-- An annotation with a simple name. -/
def simpleAnnotation : Pattern := pattern ["@", some1 wordChar, opt [parens]]

/-- An attribute in square brackets. -/
def bracketAttribute : Pattern := pattern [brackets]

/-- An attribute in square brackets after a number sign. -/
def numberSignAttribute : Pattern := pattern ["#", opt ["!"], brackets]

/-! ### Visibility -/

/-- The usual access modifiers. -/
def accessWords : List (Text × Visibility) :=
  [("public", .pub), ("private", .priv), ("protected", .prot), ("internal", .intern)]

/-- Words and some more. -/
def including (words more : List Text) : List Text :=
  words ++ more

/-- Words without some of them. -/
def without (words removed : List Text) : List Text :=
  words.filter fun w => !removed.contains w

/-! ### Functions that begin with their type -/

/-- Not a prototype or a call: the line does not end with a semicolon. -/
def noPrototype : Expr := .notAhead (seq [rest, ";", gap0, stop])

/-- A prototype only if a body follows after an arrow. -/
def noPrototypeButArrow : Expr := .ahead (oneOf [seq [rest, "=>"], noPrototype])

/-- The words of a type with white space after each, or with the stars of a pointer. -/
def typeWords : Expr :=
  some1 (oneOf [seq [some1 (wordOr ":<>,[]*&~.?"), gap],
    seq [some1 (wordOr ":<>,[]~."), gap0, some1 (.among "*&"), gap0]])

/-- A type, perhaps an owner, the name and the start of a parameter list; `check` looks at the rest
of the line. -/
def typedHeader (check : Expr) : List Expr :=
  [start, typeWords,
    opt [receiver (seq [letter, many (wordOr ".:"), optAngles]), oneOf ["::", "."]],
    name (seq [opt ["~"], letter, many wordChar]), gap0, optAngles, gap0, "(", check]

/-- A function that begins with its type. -/
def typedCallable : Rule := declares .function (typedHeader noPrototype)

/-- A function that begins with its type and may have a body after an arrow. -/
def typedCallableOrArrow : Rule := declares .function (typedHeader noPrototypeButArrow)

/-- A macro in capitals without parameters. -/
def definedConstant : Rule :=
  (declares .constant
    [start, "#", gap0, "define", gap, name upperIdent, .notAhead (wordOr "(")]).onWords ["define"]

end Language

end DeclIndex
