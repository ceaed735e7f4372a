import DeclIndex.Pattern.Basic

/-!
# Matching

Matching goes through a text from left to right and backtracks: of two alternatives the first that
leads to a match is taken, a loop runs as often as possible first, or as seldom as possible if it is
reluctant, and a search takes the leftmost place.

An expression is run with a continuation, the rest of the pattern. The state is a position in the
text, given by what lies before and after it, with the groups that have matched so far. A group that
matches again is remembered anew; a failed attempt leaves no trace.

A loop runs its body `least` times whatever it takes. After that a further round is tried only if
the position differs from the one at which the round before began, so that a body which takes
nothing cannot keep the loop running. Hence a loop without an upper bound needs no more rounds than
there are characters left, and one.

## Main definitions

* `Pattern.State` — a position and the groups so far.
* `Pattern.Expr.run` — an expression run with a continuation.
* `Pattern.Found` — a match: its span and the spans of its groups.
* `Pattern.matchStart?`, `Pattern.find?` — the match at the start of a text, and the leftmost match.
-/

namespace DeclIndex.Pattern

/-! ### Positions -/

/-- A piece of a text, from position `start` up to position `stop`. -/
structure Span where
  start : Nat
  stop : Nat
  deriving DecidableEq, Repr

/-- The piece of a text that a span covers. -/
def Span.slice (s : Span) (t : Text) : Text :=
  (t.drop s.start).take (s.stop - s.start)

/-- A position in a text and the groups that have matched, the latest first. -/
structure State where
  /-- What lies before the position, nearest first. -/
  passed : Text
  /-- What lies after the position. -/
  rest : Text
  groups : List (Nat × Span)
  deriving DecidableEq, Repr

namespace State

/-- The number of characters before the position. -/
def position (s : State) : Nat :=
  s.passed.length

/-- The text of a group that has matched. -/
def textOf? (s : State) (i : Nat) : Option Text :=
  (s.groups.lookup i).map fun span => span.slice (s.passed.reverse ++ s.rest)

/-- `passed` and `rest` after a step of `n` characters to the left. -/
def stepBack : Nat → Text → Text → Option (Text × Text)
  | 0, passed, rest => some (passed, rest)
  | _ + 1, [], _ => none
  | n + 1, c :: passed, rest => stepBack n passed (c :: rest)

/-- The state `n` characters to the left, if there are so many. -/
def back? (s : State) (n : Nat) : Option State :=
  (stepBack n s.passed s.rest).map fun p => ⟨p.1, p.2, s.groups⟩

end State

/-- What follows an expression: it takes the state the expression ends in and gives the state at
the end of the match. -/
abbrev Continuation := State → Option State

/-! ### Single characters and conditions -/

/-- Whether two characters count as the same. -/
def sameChar (fold : Bool) (c d : Char) : Bool :=
  if fold then Text.agree c d else c == d

/-- Whether a member of a class lists a character. Without regard to case, a range lists all that
agrees with one of its characters; a single character beyond U+FFFF lists only what has it as lower
case. -/
def Member.lists (fold : Bool) : Member → Char → Bool
  | .char c, d =>
    if fold && c.toNat ≤ 0xFFFF then Text.agree c d
    else if fold then c == Text.lowerChar d
    else c == d
  | .range first last, d =>
    if fold then (Text.caseVariants d).any fun e => first ≤ e && e ≤ last
    else first ≤ d && d ≤ last
  | .kind k inverted, d => k.holds d != inverted

/-- Whether a class accepts a character. -/
def accepts (fold inverted : Bool) (members : List Member) (c : Char) : Bool :=
  (members.any fun m => m.lists fold c) != inverted

/-- Whether there is a word character just before, just after. -/
def State.atWordEdge (s : State) : Bool :=
  s.passed.head?.any Text.isWord != s.rest.head?.any Text.isWord

/-- Whether a condition holds at a position. -/
def Anchor.holds : Anchor → State → Bool
  | .textStart, s => s.passed.isEmpty
  | .textEnd, s => s.rest.isEmpty
  | .lastLineEnd, s => s.rest.isEmpty || s.rest == ['\n']
  | .lineStart, s => s.passed.isEmpty || s.passed.head? == some '\n'
  | .lineEnd, s => s.rest.isEmpty || s.rest.head? == some '\n'
  | .wordEdge, s => s.atWordEdge
  | .noWordEdge, s => !s.atWordEdge && !(s.passed.isEmpty && s.rest.isEmpty)

/-- Takes one character that passes a test. -/
def takeOne (test : Char → Bool) (k : Continuation) : Continuation
  | ⟨_, [], _⟩ => none
  | ⟨passed, c :: rest, groups⟩ => if test c then k ⟨c :: passed, rest, groups⟩ else none

/-- Takes the characters of a text, equal or with equal lower case. -/
def takeText (fold : Bool) : Text → Continuation → Continuation
  | [], k => k
  | c :: t, k =>
    takeOne (fun d => if fold then Text.lowerChar c == Text.lowerChar d else c == d)
      (takeText fold t k)

/-! ### Loops -/

/-- The body exactly `n` times. -/
def required (body : Continuation → Continuation) : Nat → Continuation → Continuation
  | 0, k => k
  | n + 1, k => body (required body n k)

/-- The body up to `n` times more; `last` is where the round before began. -/
def further (body : Continuation → Continuation) (reluctant : Bool) (k : Continuation) :
    Nat → Option Nat → Continuation
  | 0, _, s => k s
  | n + 1, last, s =>
    if last = some s.position then k s
    else if reluctant then
      match k s with
      | some r => some r
      | none => body (further body reluctant k n (some s.position)) s
    else
      match body (further body reluctant k n (some s.position)) s with
      | some r => some r
      | none => k s

/-- The number of rounds that can follow the required ones. -/
def rounds (least : Nat) (most : Option Nat) (s : State) : Nat :=
  match most with
  | some m => m - least
  | none => s.rest.length + 1

/-! ### Expressions -/

namespace Expr

/-- Runs an expression, telling case apart or not, with what follows it. -/
def run : Expr → Bool → Continuation → Continuation
  | .empty, _, k => k
  | .char c, fold, k => takeOne (sameChar fold c) k
  | .any breaks, _, k => takeOne (fun c => breaks || c != '\n') k
  | .set inverted members, fold, k => takeOne (accepts fold inverted members) k
  | .anchor a, _, k => fun s => if a.holds s then k s else none
  | .cat p q, fold, k => run p fold (run q fold k)
  | .alt p q, fold, k => fun s =>
    match run p fold k s with
    | some r => some r
    | none => run q fold k s
  | .group i p, fold, k => fun s =>
    run p fold (fun t => k { t with groups := (i, ⟨s.position, t.position⟩) :: t.groups }) s
  | .again i, fold, k => fun s =>
    match s.textOf? i with
    | some t => takeText fold t k s
    | none => none
  | .loop least most reluctant p, fold, k =>
    required (fun k => run p fold k) least fun s =>
      further (fun k => run p fold k) reluctant k (rounds least most s) none s
  | .ahead p, fold, k => fun s =>
    match run p fold some s with
    | some t => k { s with groups := t.groups }
    | none => none
  | .notAhead p, fold, k => fun s =>
    match run p fold some s with
    | some _ => none
    | none => k s
  | .behind width p, fold, k => fun s =>
    match (s.back? width).bind (run p fold some) with
    | some t => k { s with groups := t.groups }
    | none => none
  | .notBehind width p, fold, k => fun s =>
    match (s.back? width).bind (run p fold some) with
    | some _ => none
    | none => k s
  | .atomic p, fold, k => fun s =>
    match run p fold some s with
    | some t => k t
    | none => none
  | .ifGroup i yes no, fold, k => fun s =>
    if (s.groups.lookup i).isSome then run yes fold k s else run no fold k s
  | .withCase fold p, _, k => run p fold k

end Expr

/-! ### Matches -/

/-- A match: its span and the groups that have matched, the latest first. -/
structure Found where
  span : Span
  groups : List (Nat × Span)
  deriving DecidableEq, Repr

/-- The match of a pattern that begins at a position. -/
def matchAt? (p : Pattern) (passed rest : Text) : Option Found :=
  (p.body.run p.fold some ⟨passed, rest, []⟩).map fun s =>
    ⟨⟨passed.length, s.position⟩, s.groups⟩

/-- The match that begins at the start of the text. -/
def matchStart? (p : Pattern) (t : Text) : Option Found :=
  p.matchAt? [] t

/-- The first match that begins at or after a position. -/
def findFrom? (p : Pattern) (passed : Text) : Text → Option Found
  | [] => p.matchAt? passed []
  | c :: rest =>
    match p.matchAt? passed (c :: rest) with
    | some found => some found
    | none => findFrom? p (c :: passed) rest

/-- The leftmost match in a text. -/
def find? (p : Pattern) (t : Text) : Option Found :=
  p.findFrom? [] t

/-- Whether the pattern matches somewhere in a text. -/
def occursIn (p : Pattern) (t : Text) : Bool :=
  (p.find? t).isSome

/-- The span of a named group, if the pattern has it and it took part in the match. -/
def spanOf? (p : Pattern) (found : Found) (name : Text) : Option Span :=
  (p.group? name).bind fun i => found.groups.lookup i

/-- The text of a named group, if the pattern has it and it took part in the match. -/
def textOf? (p : Pattern) (found : Found) (t name : Text) : Option Text :=
  (p.spanOf? found name).map fun span => span.slice t

end DeclIndex.Pattern
