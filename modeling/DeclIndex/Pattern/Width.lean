import DeclIndex.Pattern.Basic

/-!
# Widths

The least and the greatest number of characters that an expression takes. Look-behind is allowed
only for expressions of one width.

## Main definitions

* `Pattern.Width` — a least and a greatest number of characters.
* `Pattern.Expr.width` — the width of an expression, given those of the groups it refers to.
-/

namespace DeclIndex.Pattern

/-- A least and a greatest number of characters; `most` is none if there is no bound. -/
structure Width where
  least : Nat
  most : Option Nat
  deriving DecidableEq, Repr

namespace Width

/-- Exactly `n` characters. -/
def exactly (n : Nat) : Width :=
  ⟨n, some n⟩

/-- One after the other. -/
def add (a b : Width) : Width :=
  ⟨a.least + b.least, a.most.bind fun m => b.most.map (m + ·)⟩

/-- Either of the two. -/
def either (a b : Width) : Width :=
  ⟨min a.least b.least, a.most.bind fun m => b.most.map (max m)⟩

/-- From `least` to `most` times. -/
def times (least : Nat) (most : Option Nat) (a : Width) : Width :=
  ⟨least * a.least,
    match a.most, most with
    | some 0, _ => some 0
    | some m, some n => some (n * m)
    | none, some 0 => some 0
    | _, _ => none⟩

/-- The number of characters, if it does not vary and can be counted in 32 bits. -/
def fixed? (a : Width) : Option Nat :=
  if a.most = some a.least && a.least < 4294967296 then some a.least else none

end Width

/-- The width of an expression, given the widths of the groups read before it. -/
def Expr.width (groups : List (Nat × Width)) : Expr → Width
  | .empty | .anchor _ | .ahead _ | .notAhead _ | .behind _ _ | .notBehind _ _ => .exactly 0
  | .char _ | .any _ | .set _ _ => .exactly 1
  | .cat p q => (p.width groups).add (q.width groups)
  | .alt p q => (p.width groups).either (q.width groups)
  | .group _ p | .atomic p | .withCase _ p => p.width groups
  | .again i => (groups.lookup i).getD (.exactly 0)
  | .loop least most _ p => (p.width groups).times least most
  | .ifGroup _ yes no => (yes.width groups).either (no.width groups)

end DeclIndex.Pattern
