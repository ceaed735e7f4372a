import DeclIndex.Pattern.Match
import DeclIndex.Order

/-!
# Whole words

A pattern for given words that stand alone: neither a word character nor a dollar sign just before
or just after. The words may be any texts. Where several fit, the longest is found.

## Main definitions

* `Pattern.ofWords` — the pattern for a list of words, none for the empty list.
-/

namespace DeclIndex.Pattern

/-- The characters that may not stand next to a whole word. -/
def wordNeighbour : Expr :=
  Expr.wordOr "$"

/-- An expression with no word character or dollar sign on either side. -/
def alone (e : Expr) : Expr :=
  .seq [.notBehind 1 wordNeighbour, e, .notAhead wordNeighbour]

/-- The words, longer ones first. -/
def longestFirst (words : List Text) : List Text :=
  sortBy (fun a b => b.length < a.length) words

/-- The pattern for one of the words, standing alone. -/
def ofWords (fold : Bool) (words : List Text) : Option Pattern :=
  if words.isEmpty then none
  else some ⟨alone (.oneOf ((longestFirst words).map .word)), [], 0, fold⟩

end DeclIndex.Pattern
