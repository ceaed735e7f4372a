import DeclIndex.Element
import DeclIndex.Pattern.Reader
import DeclIndex.Pattern.Word

/-!
# Rules

A rule says how a line declares something. Its pattern captures the declared name and perhaps the
introducing word, the supertype and the receiver, in groups called `name`, `keyword`, `parent` and
`receiver`.

## Main definitions

* `Rule` — a rule.
* `Rule.applies` — the gate of a rule, tried before its pattern.
* `Rule.Written` — a rule as it is written, with `Rule.Written.read` to read its patterns.
-/

namespace DeclIndex

/-- The greatest number of lines that are searched for a confirmation. -/
def maxLookahead : Nat := 10

/-- One way for a line to declare something. -/
structure Rule where
  kind : Kind
  pattern : Pattern
  /-- What must be found on a line for the rule to claim it. A line that is claimed is lost to later
  rules even if the pattern finds nothing. -/
  gate : Option Pattern := none
  /-- What must follow the match, on the same line or on the next line of code. -/
  confirm : Option Pattern := none
  /-- The number of lines searched for the confirmation. -/
  lookahead : Nat := 0
  /-- Whether indented lines are passed over. -/
  topLevel : Bool := false
  lookahead_le : lookahead ≤ maxLookahead := by decide
  deriving DecidableEq, Repr

namespace Rule

/-- Whether a rule may claim a line. -/
def applies (r : Rule) (line : Text) : Bool :=
  r.gate.all fun gate => gate.occursIn line

/-- A rule in writing. -/
structure Written where
  kind : Kind := .function
  pattern : Text
  /-- Words of which one must stand on the line. -/
  keywords : List Text := []
  /-- A gate, in place of the words; none if empty. -/
  gate : Text := []
  /-- A confirmation; none if empty. -/
  confirm : Text := []
  lookahead : Int := 0
  topLevel : Bool := false
  fold : Bool := false
  deriving DecidableEq, Repr

/-- What can be wrong with a rule in writing. -/
inductive Fault
  /-- A text is no pattern. -/
  | pattern (fault : Pattern.Fault)
  /-- The pattern has no group for the declared name. -/
  | noName (written : Text)
  deriving DecidableEq, Repr

/-- A number of lines, kept between zero and the greatest allowed. -/
def cappedLookahead (n : Int) : Nat :=
  min n.toNat maxLookahead

/-- The pattern that a text writes, none if the text is empty. -/
def readOptional [CharacterNames] (fold : Bool) (written : Text) : Except Fault (Option Pattern) :=
  if written.isEmpty then .ok none
  else
    match Pattern.read fold written with
    | .error fault => .error (.pattern fault)
    | .ok p => .ok (some p)

namespace Written

/-- The gate of a rule in writing: the one that is written, or one for its words. -/
def readGate [CharacterNames] (w : Written) : Except Fault (Option Pattern) :=
  if w.gate.isEmpty then .ok (Pattern.ofWords w.fold w.keywords)
  else readOptional w.fold w.gate

/-- The rule that is written. -/
def read [CharacterNames] (w : Written) : Except Fault Rule :=
  match Pattern.read w.fold w.pattern with
  | .error fault => .error (.pattern fault)
  | .ok pattern =>
    if (pattern.group? "name").isNone then .error (.noName w.pattern)
    else
      match readOptional w.fold w.confirm, w.readGate with
      | .error fault, _ => .error fault
      | _, .error fault => .error fault
      | .ok confirm, .ok gate =>
        .ok {
          kind := w.kind
          pattern := pattern
          gate := gate
          confirm := confirm
          lookahead := cappedLookahead w.lookahead
          topLevel := w.topLevel
          lookahead_le := Nat.min_le_right _ _ }

end Written

end Rule

end DeclIndex
