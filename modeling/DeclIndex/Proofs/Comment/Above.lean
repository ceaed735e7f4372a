import DeclIndex.Proofs.Comment.Block
import Mathlib.Data.List.DropRight

/-!
# The comment above the line with a given index

The search for the comment above a line goes upwards. Read downwards, its result has a closed form:
of the lines before the index that are not blank, take the longest run at the end that are all
comments, and of these the last ones, as many as are asked for. Lines with markers alone count among
these but give no text. Blank lines are left out at the beginning and therefore make no difference.

## Main definitions

* `Comment.written` — the lines that are not blank, trimmed.
* `Comment.oneLine` — comment lines, stripped and joined to one.

## Main results

* `Comment.aboveAt_eq_oneLine` — the comment above a line is made of the last comment lines.
* `Comment.aboveAt_closed_form` — the same, case by case, and blank lines make no difference.
-/

namespace DeclIndex.Comment

open Text

/-- The lines that are not blank, trimmed. -/
def written (lines : List Text) : List Text :=
  (lines.map trim).filter fun line => !line.isEmpty

/-- Comment lines on one line: the texts that are not empty without markers, with single spaces
between them. -/
def oneLine (markers lines : List Text) : Text :=
  joinWith [' '] ((lines.map (strip markers)).filter fun text => !text.isEmpty)

variable (markers lines : List Text)

/-- The texts of some lines are their stripped forms that are not empty. -/
lemma flatMap_textOf :
    lines.flatMap (textOf markers) =
      (lines.map (strip markers)).filter fun text => !text.isEmpty := by
  induction lines with
  | nil => rfl
  | cons line lines ih =>
    rw [List.flatMap_cons, List.map_cons, List.filter_cons, ih, textOf]
    cases (strip markers line).isEmpty <;> rfl

/-! ## The last comment lines -/

/-- Blank lines among others are not written. -/
lemma written_append_blanks {blanks : List Text} (hblank : ∀ b ∈ blanks, trim b = [])
    (upper lower : List Text) :
    written (upper ++ blanks ++ lower) = written (upper ++ lower) := by
  have hnone : (blanks.map trim).filter (fun line => !line.isEmpty) = [] := by
    simpa [List.filter_eq_nil_iff] using hblank
  simp only [written, List.map_append, List.filter_append, hnone, List.append_nil]

/-- The block above a declaration, read downwards: the last comments of the lines that are not
blank. -/
lemma reverse_block (depth : Nat) :
    ((block markers id depth lines.reverse).map trim).reverse =
      ((written lines).rtakeWhile (isComment markers)).rtake depth := by
  have hreverse : (lines.reverse.map trim).filter (fun line => !line.isEmpty) =
      (written lines).reverse := by
    rw [written, List.map_reverse, List.filter_reverse]
  rw [List.rtake_eq_reverse_take_reverse, List.rtakeWhile, List.reverse_reverse, ← hreverse,
    List.filter_map, List.takeWhile_map, ← List.map_take]
  rfl

/-- **The comment above a line** is made of the last comments before it. -/
lemma aboveAt_eq_oneLine (index depth : Int) :
    aboveAt markers lines index depth =
      oneLine markers (((written (lines.take index.toNat)).rtakeWhile (isComment markers)).rtake
        depth.toNat) := by
  have hblock := linesAbove_eq_block markers id (lines.take index.toNat).reverse depth.toNat
  rw [List.map_id] at hblock
  rw [aboveAt, above, oneLine, hblock, ← reverse_block, ← flatMap_textOf, ← List.map_reverse,
    List.flatMap_map]
  rfl

/-- **The comment above a line in closed form.** There is none above the first line or of no depth.
Otherwise, take the lines before the index that are not blank, of these the longest run at the end
that begin with markers, of these the last ones up to the depth, and put them on one line. Blank
lines among those above make no difference.

**Proof sketch.** The search upwards finds the block of comments, which is this run read upwards
(`reverse_block`). With no lines before the index or no depth the run is empty. Blank lines that are
inserted above the index are left out with the others. -/
theorem aboveAt_closed_form (index depth : Int) :
    (aboveAt markers lines index depth =
      if index ≤ 0 ∨ depth ≤ 0 then []
      else
        oneLine markers
          (((written (lines.take (min index lines.length).toNat)).rtakeWhile
            (isComment markers)).rtake depth.toNat)) ∧
    ∀ upper blanks lower, lines = upper ++ lower → (∀ b ∈ blanks, trim b = []) →
      (upper.length : Int) ≤ index →
      aboveAt markers (upper ++ blanks ++ lower) (index + blanks.length) depth =
        aboveAt markers lines index depth := by
  constructor
  · rw [aboveAt_eq_oneLine]
    split
    · rename_i hnone
      rcases hnone with hindex | hdepth
      · have hnil : written [] = [] := rfl
        rw [Int.toNat_of_nonpos hindex, List.take_zero, hnil, List.rtakeWhile_nil, List.rtake_nil]
        rfl
      · rw [Int.toNat_of_nonpos hdepth, List.rtake_zero]
        rfl
    · have htake : lines.take (min index lines.length).toNat = lines.take index.toNat := by
        rw [List.take_eq_take_iff]
        omega
      rw [htake]
  · rintro upper blanks lower rfl hblank hindex
    obtain ⟨n, hn⟩ : ∃ n : Nat, index = upper.length + n := ⟨index.toNat - upper.length, by omega⟩
    have htake : (upper ++ lower).take index.toNat = upper ++ lower.take n := by
      rw [show index.toNat = upper.length + n by omega, List.take_length_add_append]
    have htake' : (upper ++ blanks ++ lower).take (index + blanks.length).toNat =
        upper ++ blanks ++ lower.take n := by
      rw [show (index + blanks.length).toNat = (upper ++ blanks).length + n by
        rw [List.length_append]; omega, List.take_length_add_append]
    rw [aboveAt_eq_oneLine, aboveAt_eq_oneLine, htake, htake', written_append_blanks hblank]

/-- A block comment of which two lines are read, one with a marker alone. Blank lines inside the
block make no difference. -/
theorem aboveAt_closed_form_of_block_comment :
    aboveAt defaultMarkers ["/**", " * Long.", " * Short.", " */", "void f()"] 4 2 = "Short." ∧
      (∀ b ∈ (["", "\t"] : List Text), trim b = []) ∧
      aboveAt defaultMarkers ["/**", " * Long.", "", "\t", " * Short.", " */", "void f()"] 6 2 =
        "Short." := by
  have hclosed := aboveAt_closed_form defaultMarkers
    ["/**", " * Long.", " * Short.", " */", "void f()"] 4 2
  have hblock : aboveAt defaultMarkers ["/**", " * Long.", " * Short.", " */", "void f()"] 4 2 =
      "Short." := hclosed.1.trans (by decide)
  have hblank : ∀ b ∈ (["", "\t"] : List Text), trim b = [] := by decide
  have hspaced := hclosed.2 ["/**", " * Long."] ["", "\t"] [" * Short.", " */", "void f()"] rfl
    hblank (by decide)
  exact ⟨hblock, hblank, hspaced.trans hblock⟩

end DeclIndex.Comment
