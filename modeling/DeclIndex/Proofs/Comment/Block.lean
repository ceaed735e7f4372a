import DeclIndex.Comment
import Mathlib.Data.List.Basic
import Mathlib.Tactic.Common

/-!
# The comment block above a declaration

The search for the comment above a declaration goes from line to line. Its result has a closed form:
of the lines above, nearest first, leave out the blank ones, keep those before the first that is no
comment, and of these as many as are asked for. The closed form is stated for anything that has a
text, so that lines can be followed together with their numbers.

## Main definitions

* `Comment.block` — the comment lines of the block above a declaration.

## Main results

* `Comment.linesAbove_eq_block` — the search gives the texts of the block.
* `Comment.block_append_cons` — no block reaches over a line that is neither blank nor a comment.
-/

namespace DeclIndex.Comment

variable {α : Type} (markers : List Text) (text : α → Text)

/-- The comment lines of the block above a declaration, nearest first, of at most `depth` lines. The
lines above are given nearest first. -/
def block (depth : Nat) (above : List α) : List α :=
  ((above.filter fun l => !(Text.trim (text l)).isEmpty).takeWhile fun l =>
    isComment markers (Text.trim (text l))).take depth

/-- The lines of a block are among the lines above. -/
lemma mem_of_mem_block {depth : Nat} {above : List α} {l : α}
    (h : l ∈ block markers text depth above) : l ∈ above := by
  have htake := List.mem_of_mem_take h
  have hwhile := (List.takeWhile_sublist _).subset htake
  exact (List.mem_filter.mp hwhile).1

/-- With no depth there is no block. -/
@[simp]
lemma block_zero (above : List α) : block markers text 0 above = [] := List.take_zero

/-- Of no lines there is no block. -/
@[simp]
lemma block_nil (depth : Nat) : block markers text depth [] = [] := List.take_nil

/-- A blank line belongs to no block and ends none. -/
lemma block_cons_of_blank {l : α} (hblank : Text.trim (text l) = []) (depth : Nat)
    (above : List α) : block markers text depth (l :: above) = block markers text depth above := by
  simp [block, hblank]

/-- A comment belongs to the block. -/
lemma block_cons_of_comment {l : α} (hblank : Text.trim (text l) ≠ [])
    (hcomment : isComment markers (Text.trim (text l)) = true) (depth : Nat) (above : List α) :
    block markers text (depth + 1) (l :: above) = l :: block markers text depth above := by
  simp [block, hblank, hcomment]

/-- Any other line ends the block. -/
lemma block_cons_of_code {l : α} (hblank : Text.trim (text l) ≠ [])
    (hcomment : isComment markers (Text.trim (text l)) = false) (depth : Nat) (above : List α) :
    block markers text depth (l :: above) = [] := by
  simp [block, hblank, hcomment]

/-- **The search gives the texts of the block**, from top to bottom.

**Proof sketch.** Induction on the lines above, for every depth. A blank line is passed over, a
comment is the lowest line of the block, and any other line ends the search and the block. -/
theorem linesAbove_eq_block (above : List α) :
    ∀ depth, linesAbove markers depth (above.map text) =
      (block markers text depth above).reverse.flatMap fun l =>
        textOf markers (Text.trim (text l)) := by
  induction above with
  | nil =>
    intro depth
    cases depth <;> simp [linesAbove]
  | cons l above ih =>
    intro depth
    cases depth with
    | zero => simp [linesAbove]
    | succ depth =>
      rw [List.map_cons, linesAbove]
      by_cases hblank : Text.trim (text l) = []
      · rw [block_cons_of_blank markers text hblank, ← ih]
        simp [hblank]
      · cases hcomment : isComment markers (Text.trim (text l)) with
        | true =>
          rw [block_cons_of_comment markers text hblank hcomment, List.reverse_cons,
            List.flatMap_append, List.flatMap_singleton, ← ih]
          simp [hblank]
        | false =>
          rw [block_cons_of_code markers text hblank hcomment]
          simp [hblank]

/-- A block ends below a line that is neither blank nor a comment: what stands above that line makes
no difference. -/
lemma block_append_cons {l : α} (hblank : Text.trim (text l) ≠ [])
    (hcomment : isComment markers (Text.trim (text l)) = false) (depth : Nat) (near far : List α) :
    block markers text depth (near ++ l :: far) = block markers text depth near := by
  unfold block
  congr 1
  rw [List.filter_append, List.filter_cons_of_pos (by simpa using hblank)]
  induction near.filter fun l => !(Text.trim (text l)).isEmpty with
  | nil => simp [hcomment]
  | cons m near ih =>
    rw [List.cons_append, List.takeWhile_cons, List.takeWhile_cons, ih]

/-- No comment that is found above a declaration reaches over a line that is neither blank nor a
comment. -/
lemma linesAbove_append_cons {markers : List Text} {b : Text} (hblank : Text.trim b ≠ [])
    (hcomment : isComment markers (Text.trim b) = false) (depth : Nat) (near far : List Text) :
    linesAbove markers depth (near ++ b :: far) = linesAbove markers depth near := by
  have hall := linesAbove_eq_block markers id (near ++ b :: far) depth
  have hnear := linesAbove_eq_block markers id near depth
  rw [block_append_cons markers id hblank hcomment, ← hnear] at hall
  simpa using hall

/-- Blank lines between the lines above a declaration make no difference. -/
lemma linesAbove_insert_blank {blank : Text} (hblank : Text.trim blank = []) (markers : List Text)
    (depth : Nat) (near far : List Text) :
    linesAbove markers depth (near ++ blank :: far) = linesAbove markers depth (near ++ far) := by
  have hblock : block markers id depth (near ++ blank :: far) =
      block markers id depth (near ++ far) := by
    simp [block, hblank]
  have hall := linesAbove_eq_block markers id (near ++ blank :: far) depth
  have hrest := linesAbove_eq_block markers id (near ++ far) depth
  rw [hblock, ← hrest] at hall
  simpa using hall

end DeclIndex.Comment
