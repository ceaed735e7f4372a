import DeclIndex.Text.Blank
import DeclIndex.Text.Case

/-!
# Patterns

A pattern is a regular expression over single characters, with anchors, captures, look-around and
back references. It is plain data: nothing is compiled, and matching (`DeclIndex.Pattern.Match`)
is recursion on the expression.

## Main definitions

* `Pattern.Member`, `Pattern.Anchor` — what a character class lists, and the conditions on a
  position.
* `Pattern.Expr` — the expressions.
* `Pattern.Expr.seq`, `Pattern.Expr.oneOf`, `Pattern.Expr.word`, … — short forms in which the rules
  of a language are written.
* `Pattern` — an expression with the names of its groups and the treatment of case.
-/

namespace DeclIndex

namespace Pattern

/-! ### Parts -/

/-- The classes of characters that a pattern may name. -/
inductive CharKind
  | word
  | digit
  | blank
  deriving DecidableEq, Repr

/-- Whether a character belongs to the class. -/
def CharKind.holds : CharKind → Char → Bool
  | .word, c => Text.isWord c
  | .digit, c => Text.isDigit c
  | .blank, c => Text.isBlank c

/-- What a character class lists. -/
inductive Member
  /-- A single character. -/
  | char (c : Char)
  /-- All characters from `first` to `last`. -/
  | range (first last : Char)
  /-- A named class or, with `inverted`, all characters outside it. -/
  | kind (k : CharKind) (inverted : Bool)
  deriving DecidableEq, Repr

/-- A condition on a position that takes no character. -/
inductive Anchor
  /-- Nothing before. -/
  | textStart
  /-- Nothing after. -/
  | textEnd
  /-- Nothing after but perhaps one line feed. -/
  | lastLineEnd
  /-- Nothing before, or a line feed just before. -/
  | lineStart
  /-- Nothing after, or a line feed just after. -/
  | lineEnd
  /-- A word character on exactly one side. -/
  | wordEdge
  /-- A word character on both sides or on neither; nowhere in an empty text. -/
  | noWordEdge
  deriving DecidableEq, Repr

/-- The expressions. -/
inductive Expr
  /-- Nothing. -/
  | empty
  /-- One given character. -/
  | char (c : Char)
  /-- Any character; a line feed only with `breaks`. -/
  | any (breaks : Bool)
  /-- A character that is listed or, with `inverted`, one that is not. -/
  | set (inverted : Bool) (members : List Member)
  /-- A condition on the position. -/
  | anchor (a : Anchor)
  /-- One after the other. -/
  | cat (p q : Expr)
  /-- The first that leads to a match. -/
  | alt (p q : Expr)
  /-- The text of `p` is remembered as group `i`. -/
  | group (i : Nat) (p : Expr)
  /-- The text of group `i` once more. -/
  | again (i : Nat)
  /-- `p` at least `least` times and at most `most` times, as often as possible or, with
  `reluctant`, as seldom as possible. -/
  | loop (least : Nat) (most : Option Nat) (reluctant : Bool) (p : Expr)
  /-- `p` matches here; the position stays. -/
  | ahead (p : Expr)
  /-- `p` does not match here. -/
  | notAhead (p : Expr)
  /-- `p` matches the `width` characters before the position. -/
  | behind (width : Nat) (p : Expr)
  /-- `p` does not match `width` characters before the position. -/
  | notBehind (width : Nat) (p : Expr)
  /-- The first match of `p`, without a second try. -/
  | atomic (p : Expr)
  /-- `yes` if group `i` has matched, else `no`. -/
  | ifGroup (i : Nat) (yes no : Expr)
  /-- `p` with case told apart, or not with `fold`. -/
  | withCase (fold : Bool) (p : Expr)
  deriving DecidableEq, Repr

namespace Expr

/-- Whether anything is repeated. -/
def hasLoop : Expr → Bool
  | .empty | .char _ | .any _ | .set _ _ | .anchor _ | .again _ => false
  | .loop _ _ _ _ => true
  | .cat p q | .alt p q | .ifGroup _ p q => p.hasLoop || q.hasLoop
  | .group _ p | .ahead p | .notAhead p | .behind _ p | .notBehind _ p | .atomic p
  | .withCase _ p => p.hasLoop

/-! ### Short forms -/

/-- One expression after the other. -/
def seq : List Expr → Expr
  | [] => .empty
  | [p] => p
  | p :: q :: rest => .cat p (seq (q :: rest))

/-- The first of several expressions that leads to a match. -/
def oneOf : List Expr → Expr
  | [] => .set false []
  | [p] => p
  | p :: q :: rest => .alt p (oneOf (q :: rest))

/-- The characters of a text one after the other. -/
def word (t : Text) : Expr :=
  seq (t.map .char)

instance : Coe String Expr := ⟨fun s => word s⟩

/-- Perhaps once. -/
def opt (parts : List Expr) : Expr :=
  .loop 0 (some 1) false (seq parts)

/-- Any number of times. -/
def many (p : Expr) : Expr :=
  .loop 0 none false p

/-- Once or more. -/
def some1 (p : Expr) : Expr :=
  .loop 1 none false p

/-- The start of the line. -/
def start : Expr := .anchor .textStart

/-- The end of the line. -/
def stop : Expr := .anchor .lastLineEnd

/-- The edge of a word. -/
def edge : Expr := .anchor .wordEdge

/-- One white-space character. -/
def blank : Expr := .set false [.kind .blank false]

/-- White space, at least one character of it. -/
def gap : Expr := some1 blank

/-- White space or nothing. -/
def gap0 : Expr := many blank

/-- One word character. -/
def wordChar : Expr := .set false [.kind .word false]

/-- Any text within the line. -/
def rest : Expr := many (.any false)

/-- One of the characters of a text, a word character, or one of further members. -/
def wordOr (t : Text) : Expr := .set false (.kind .word false :: t.map .char)

/-- One of the characters of a text. -/
def among (t : Text) : Expr := .set false (t.map .char)

/-- A character that is none of those of a text. -/
def except (t : Text) : Expr := .set true (t.map .char)

end Expr

end Pattern

/-- An expression together with the names of its groups, the number of groups and the treatment of
case. -/
structure Pattern where
  body : Pattern.Expr
  names : List (Text × Nat)
  groups : Nat
  fold : Bool
  deriving DecidableEq, Repr

/-- The number of the group with a given name. -/
def Pattern.group? (p : Pattern) (name : Text) : Option Nat :=
  p.names.lookup name

end DeclIndex
