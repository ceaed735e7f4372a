import DeclIndex.Pattern.Token
import DeclIndex.Pattern.Width

/-!
# Reading patterns

Puts the tokens of a written pattern together. The groups that are open form a stack of frames. A
frame holds the alternatives that are complete and the items of the one being read; a closing
parenthesis turns the frame into an item of the frame below.

Groups are numbered in the order of their opening parentheses. Flags within a group hold for that
group; flags for the whole pattern stand before everything else. Of the flags, `i` turns off the
distinction of case, `s` lets `.` take a line feed, `m` lets `^` and `$` hold at every line, `x`
skips white space and comments and `t` forbids repetition. The flag `a`, which confines digits,
white space and word characters to ASCII, is read but does not change what these match, nor is it
held against a flag `u` elsewhere.

## Main definitions

* `Pattern.Frame`, `Pattern.Reading` — an open group, and the state of the reader.
* `Pattern.Reading.push` — the effect of one token.
* `Pattern.read` — the pattern that a text writes.
-/

namespace DeclIndex.Pattern

/-! ### The state of the reader -/

/-- The flags in force. -/
structure Flags where
  fold : Bool
  breaks : Bool
  lines : Bool
  spaced : Bool
  loopless : Bool
  deriving DecidableEq, Repr

/-- The flags after some are turned on and some off. The flag `a` is passed over. -/
def Flags.set (f : Flags) (on off : List Char) : Flags where
  fold := (f.fold || on.contains 'i') && !off.contains 'i'
  breaks := (f.breaks || on.contains 's') && !off.contains 's'
  lines := (f.lines || on.contains 'm') && !off.contains 'm'
  spaced := (f.spaced || on.contains 'x') && !off.contains 'x'
  loopless := (f.loopless || on.contains 't') && !off.contains 't'

/-- What an open group is. -/
inductive Shape
  /-- The whole pattern. -/
  | whole
  | plain
  /-- A group with the case flag as given. -/
  | withCase (fold : Bool)
  | capture (i : Nat)
  | atomic
  | ahead
  | notAhead
  | behind
  | notBehind
  | condition (i : Nat)
  deriving DecidableEq, Repr

/-- Whether a group looks behind. -/
def Shape.looksBehind : Shape → Bool
  | .behind | .notBehind => true
  | _ => false

/-- What the latest item is, as far as repetition is concerned. -/
inductive Latest
  /-- There is no item, or it is an anchor. -/
  | fixed
  /-- It is repeated already. -/
  | repeated
  | plain
  deriving DecidableEq, Repr

/-- An open group. -/
structure Frame where
  shape : Shape
  flags : Flags
  /-- The complete alternatives, the latest first. -/
  complete : List Expr
  /-- The items of the alternative being read, the latest first. -/
  items : List Expr
  latest : Latest
  deriving DecidableEq, Repr

/-- A group that has just been opened. -/
def Frame.fresh (shape : Shape) (flags : Flags) : Frame :=
  ⟨shape, flags, [], [], .fixed⟩

/-- The alternatives of a frame, the first one first. -/
def Frame.alternatives (f : Frame) : List Expr :=
  (Expr.seq f.items.reverse :: f.complete).reverse

/-- What a frame holds as one expression. -/
def Frame.body (f : Frame) : Expr :=
  Expr.oneOf f.alternatives

/-- A frame with one more item. -/
def Frame.add (f : Frame) (e : Expr) : Frame :=
  { f with items := e :: f.items, latest := .plain }

/-- The state of the reader. -/
structure Reading where
  /-- The innermost open group. -/
  frame : Frame
  /-- The groups around it, the innermost first. -/
  outer : List Frame
  /-- The number of capturing groups that have been opened. -/
  groups : Nat
  /-- The names of groups, the latest first. -/
  names : List (Text × Nat)
  /-- The widths of the capturing groups that have been closed. -/
  closed : List (Nat × Width)
  /-- Within look-behind, the number of groups opened before the outermost. -/
  behindFrom : Option Nat
  /-- The greatest number that a condition refers to. -/
  condition : Nat
  deriving DecidableEq, Repr

namespace Reading

/-- The state before the first token. -/
def initial (fold : Bool) : Reading where
  frame := .fresh .whole ⟨fold, false, false, false, false⟩
  outer := []
  groups := 0
  names := []
  closed := []
  behindFrom := none
  condition := 0

/-- The state with one more item in the innermost group. -/
def add (r : Reading) (e : Expr) : Reading :=
  { r with frame := r.frame.add e }

/-- The state with an anchor, which cannot be repeated, in the innermost group. -/
def addAnchor (r : Reading) (a : Anchor) : Reading :=
  { r with frame := { r.frame.add (.anchor a) with latest := .fixed } }

/-- The state with a group opened. -/
def enter (r : Reading) (shape : Shape) (flags : Flags) : Reading :=
  { r with frame := .fresh shape flags, outer := r.frame :: r.outer }

/-! ### References -/

/-- Whether look-behind may refer to a group: it must be closed and stand before it. -/
def visibleBehind (r : Reading) (i : Nat) : Bool :=
  match r.behindFrom with
  | none => true
  | some opened => (r.closed.lookup i).isSome && i ≤ opened

/-- A reference to a group that must have been closed. -/
def refer (r : Reading) (i : Nat) : Except Fault Reading :=
  if i = 0 || r.groups < i then .error .unknownGroup
  else if (r.closed.lookup i).isNone || !r.visibleBehind i then .error .groupNotClosed
  else .ok (r.add (.again i))

/-- A condition on a group. -/
def enterCondition (r : Reading) (i : Nat) : Except Fault Reading :=
  if !r.visibleBehind i then .error .groupNotClosed
  else .ok (r.enter (.condition i) r.frame.flags)

/-! ### Groups -/

/-- Opens a capturing group. -/
def capture (r : Reading) (name : Option Text) : Except Fault Reading :=
  let i := r.groups + 1
  let opened := { r with groups := i }.enter (.capture i) r.frame.flags
  match name with
  | none => .ok opened
  | some name =>
    if (r.names.lookup name).isSome then .error .nameTaken
    else .ok { opened with names := (name, i) :: r.names }

/-- Opens look-behind. -/
def lookBehind (r : Reading) (shape : Shape) : Reading :=
  { r.enter shape r.frame.flags with
    behindFrom := some (r.behindFrom.getD r.groups) }

/-- Opens a group. -/
def openGroup (r : Reading) : Opening → Except Fault Reading
  | .capture name => r.capture name
  | .plain => .ok (r.enter .plain r.frame.flags)
  | .atomic => .ok (r.enter .atomic r.frame.flags)
  | .ahead => .ok (r.enter .ahead r.frame.flags)
  | .notAhead => .ok (r.enter .notAhead r.frame.flags)
  | .behind => .ok (r.lookBehind .behind)
  | .notBehind => .ok (r.lookBehind .notBehind)
  | .ifNumber i => { r with condition := max r.condition i }.enterCondition i
  | .ifName name =>
    match r.names.lookup name with
    | none => .error .unknownGroup
    | some i => r.enterCondition i
  | .flags on off =>
    let flags := r.frame.flags.set on off
    .ok (r.enter (.withCase flags.fold) flags)

/-- The expression that a complete group is. -/
def exprOf (r : Reading) : Except Fault Expr :=
  let body := r.frame.body
  match r.frame.shape with
  | .whole | .plain => .ok body
  | .withCase fold => .ok (.withCase fold body)
  | .capture i => .ok (.group i body)
  | .atomic => .ok (.atomic body)
  | .ahead => .ok (.ahead body)
  | .notAhead => .ok (.notAhead body)
  | .behind =>
    ((body.width r.closed).fixed?).elim (.error .varyingWidth) fun n => .ok (.behind n body)
  | .notBehind =>
    ((body.width r.closed).fixed?).elim (.error .varyingWidth) fun n => .ok (.notBehind n body)
  | .condition i =>
    match r.frame.alternatives with
    | [yes] => .ok (.ifGroup i yes .empty)
    | [yes, no] => .ok (.ifGroup i yes no)
    | _ => .error .tooManyBranches

/-- The widths of closed groups after the innermost group is closed. -/
def closedAfter (r : Reading) : List (Nat × Width) :=
  match r.frame.shape with
  | .capture i => (i, r.frame.body.width r.closed) :: r.closed
  | _ => r.closed

/-- Closes the innermost group, which becomes an item of the group around it. -/
def close (r : Reading) : Except Fault Reading :=
  match r.outer with
  | [] => .error .extraClosing
  | around :: outer =>
    r.exprOf.map fun e =>
      { r with
        frame := around.add e
        outer := outer
        closed := r.closedAfter
        behindFrom :=
          if (around :: outer).any fun f => f.shape.looksBehind then r.behindFrom else none }

/-! ### Repetition -/

/-- Puts a loop around the latest item. -/
def repeatLatest (r : Reading) (least : Nat) (most : Option Nat) (preference : Preference) :
    Except Fault Reading :=
  match r.frame.latest, r.frame.items with
  | .plain, e :: items =>
    let e :=
      match preference with
      | .greedy => .loop least most false e
      | .reluctant => .loop least most true e
      | .possessive => .atomic (.loop least most false e)
    .ok { r with frame := { r.frame with items := e :: items, latest := .repeated } }
  | .repeated, _ => .error .repeatedTwice
  | _, _ => .error .nothingToRepeat

/-! ### Tokens -/

/-- Whether nothing but flags has been read. -/
def atStart (r : Reading) : Bool :=
  r.outer.isEmpty && r.frame.complete.isEmpty && r.frame.items.isEmpty

/-- The effect of a token. -/
def push (r : Reading) : Token → Except Fault Reading
  | .nothing => .ok r
  | .item e => .ok (r.add e)
  | .anchor a => .ok (r.addAnchor a)
  | .dot => .ok (r.add (.any r.frame.flags.breaks))
  | .caret => .ok (r.addAnchor (if r.frame.flags.lines then .lineStart else .textStart))
  | .dollar => .ok (r.addAnchor (if r.frame.flags.lines then .lineEnd else .lastLineEnd))
  | .bar =>
    .ok { r with
      frame := { r.frame with
        complete := Expr.seq r.frame.items.reverse :: r.frame.complete
        items := []
        latest := .fixed } }
  | .opening o => r.openGroup o
  | .closing => r.close
  | .reference i => r.refer i
  | .namedReference name =>
    match r.names.lookup name with
    | none => .error .unknownGroup
    | some i => r.refer i
  | .loop least most preference => r.repeatLatest least most preference
  | .setFlags on =>
    if r.atStart then
      .ok { r with frame := { r.frame with flags := r.frame.flags.set on [] } }
    else .error .flagsNotFirst

/-- Reads a text to its end; `fuel` bounds the number of tokens. -/
def pushAll [CharacterNames] : Nat → Reading → Text → Except Fault Reading
  | _, r, [] => .ok r
  | 0, r, _ :: _ => .ok r
  | fuel + 1, r, c :: rest =>
    match nextToken r.frame.flags.spaced c rest with
    | .error fault => .error fault
    | .ok (token, rest) =>
      match r.push token with
      | .error fault => .error fault
      | .ok r => pushAll fuel r rest

/-- The pattern that has been read, once nothing is open. -/
def finish (r : Reading) : Except Fault Pattern :=
  match r.outer with
  | _ :: _ => .error .openGroup
  | [] =>
    if r.groups < r.condition then .error .unknownGroup
    else if r.frame.flags.loopless && r.frame.body.hasLoop then .error .loopForbidden
    else .ok ⟨r.frame.body, r.names.reverse, r.groups, r.frame.flags.fold⟩

end Reading

/-- The pattern that a text writes; with `fold`, case makes no difference. -/
def read [CharacterNames] (fold : Bool) (t : Text) : Except Fault Pattern :=
  match Reading.pushAll t.length (.initial fold) t with
  | .error fault => .error fault
  | .ok r => r.finish

end DeclIndex.Pattern
