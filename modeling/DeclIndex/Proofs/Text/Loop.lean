import DeclIndex.Text.Basic
import Mathlib.Computability.StateTransition
import Mathlib.Tactic.Common

/-!
# Loops over a text

A loop changes a text by one pass after the other until no further pass is needed. Its run has no
bound, so that it may go on for ever. If each pass makes the text shorter the loop comes to an end,
and a bound of as many passes as the text has characters makes no difference.

## Main results

* `Text.eval_eq_none` — a loop goes on for ever where a pass changes nothing.
* `Text.eval_eq_some` — a loop each pass of which makes the text shorter ends.
-/

namespace DeclIndex.Text

open Relation (ReflTransGen)
open StateTransition (Reaches eval mem_eval reaches_eval)

variable {pass : Text → Option Text} {line : Text}

/-- A loop ends at once where no pass is needed. -/
lemma eval_of_none (h : pass line = none) : eval pass line = Part.some line :=
  Part.eq_some_iff.mpr (mem_eval.mpr ⟨ReflTransGen.refl, h⟩)

/-- A loop goes on with what a pass leaves. -/
lemma eval_of_some {next : Text} (h : pass line = some next) : eval pass line = eval pass next :=
  reaches_eval (ReflTransGen.single h)

/-- A loop goes on for ever where a pass changes nothing. -/
lemma eval_eq_none (h : pass line = some line) : eval pass line = Part.none := by
  have hsame : ∀ other, Reaches pass line other → other = line := by
    intro other hreaches
    induction hreaches with
    | refl => rfl
    | tail _ hstep ih =>
      subst ih
      exact Option.some.inj (hstep.symm.trans h)
  refine Part.eq_none_iff.mpr fun rest hrest => ?_
  obtain ⟨hreaches, hstop⟩ := mem_eval.mp hrest
  rw [hsame rest hreaches, h] at hstop
  cases hstop

/-- A loop each pass of which makes the text shorter ends with what as many passes leave as the text
has characters. -/
lemma eval_eq_some {bounded : Nat → Text → Text} (hzero : ∀ line, bounded 0 line = line)
    (hsucc : ∀ n line, bounded (n + 1) line = ((pass line).map (bounded n)).getD line)
    (hshorter : ∀ line next, pass line = some next → next.length < line.length) {n : Nat} :
    ∀ {line : Text}, line.length ≤ n → eval pass line = Part.some (bounded n line) := by
  induction n with
  | zero =>
    intro line hn
    cases hpass : pass line with
    | none => rw [eval_of_none hpass, hzero]
    | some next => exact absurd (hshorter line next hpass) (by omega)
  | succ n ih =>
    intro line hn
    rw [hsucc]
    cases hpass : pass line with
    | none => exact eval_of_none hpass
    | some next =>
      have hlength := hshorter line next hpass
      exact (eval_of_some hpass).trans (ih (by omega))

end DeclIndex.Text
