import DeclIndex.Comment
import DeclIndex.Proofs.Text.Trim
import Mathlib.Data.List.Basic

/-!
# Comments of trimmed lines

Every line that is read for a comment is trimmed before. So trimming all lines makes no difference
to the comments above and below a declaration.

## Main results

* `Comment.above_trim`, `Comment.below_trim` — comments are read off trimmed lines.
-/

namespace DeclIndex.Comment

open Text

variable (markers : List Text)

/-- The text of a comment line is read off the trimmed line. -/
@[simp]
lemma textOf_trim (line : Text) : textOf markers (trim line) = textOf markers line := by
  have hstrip : strip markers (trim line) = strip markers line := by simp only [strip, trim_trim]
  rw [textOf, textOf, hstrip]

/-- The lines above a declaration are read trimmed. -/
lemma linesAbove_trim (lines : List Text) :
    ∀ depth, linesAbove markers depth (lines.map trim) = linesAbove markers depth lines := by
  induction lines with
  | nil => intro depth; rfl
  | cons line lines ih =>
    intro depth
    cases depth with
    | zero => rfl
    | succ depth => simp only [List.map_cons, linesAbove, trim_trim, ih]

/-- **The comment above a declaration** is read off trimmed lines. -/
lemma above_trim (depth : Nat) (lines : List Text) :
    above markers depth (lines.map trim) = above markers depth lines := by
  rw [above, above, linesAbove_trim]

/-- The lines of a documentation string are read trimmed. -/
lemma linesToMarker_trim (marker : Text) (lines : List Text) :
    ∀ depth, linesToMarker markers marker depth (lines.map trim) =
      linesToMarker markers marker depth lines := by
  induction lines with
  | nil => intro depth; rfl
  | cons line lines ih =>
    intro depth
    cases depth with
    | zero => rfl
    | succ depth => simp only [List.map_cons, linesToMarker, trim_trim, ih]

/-- The lines of a run that begin with a marker are read trimmed. -/
lemma linesWithMarker_trim (marker : Text) (lines : List Text) :
    ∀ depth, linesWithMarker markers marker depth (lines.map trim) =
      linesWithMarker markers marker depth lines := by
  induction lines with
  | nil => intro depth; rfl
  | cons line lines ih =>
    intro depth
    cases depth with
    | zero => rfl
    | succ depth => simp only [List.map_cons, linesWithMarker, trim_trim, ih]

/-- The lines from the first of a documentation string on are read trimmed. -/
lemma linesBelow_trim (depth : Nat) (first : Text) (lines : List Text) :
    linesBelow markers depth (trim first) (lines.map trim) =
      linesBelow markers depth first lines := by
  have hrun : ∀ marker n, linesWithMarker markers marker n (trim first :: lines.map trim) =
      linesWithMarker markers marker n (first :: lines) :=
    fun marker n => linesWithMarker_trim markers marker (first :: lines) n
  simp only [linesBelow, trim_trim, textOf_trim, linesToMarker_trim, hrun]

/-- **The documentation string below a declaration** is read off trimmed lines. -/
lemma below_trim (depth : Nat) (lines : List Text) :
    below markers depth (lines.map trim) = below markers depth lines := by
  have hblank : (fun line => (trim line).isEmpty) ∘ trim = fun line => (trim line).isEmpty := by
    funext line
    simp
  unfold below
  rw [List.dropWhile_map, hblank]
  cases lines.dropWhile fun line => (trim line).isEmpty with
  | nil => rfl
  | cons first rest => rw [List.map_cons]; simp only [linesBelow_trim]

end DeclIndex.Comment
