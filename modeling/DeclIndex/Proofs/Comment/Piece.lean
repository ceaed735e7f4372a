import DeclIndex.Proofs.Comment.Block
import DeclIndex.Proofs.Text.Trim

/-!
# Pieces of comment lines

Stripping markers takes characters off the two ends of a line, so that what is left is a piece of
the line. Every text that a comment is joined of is a piece of one of the lines that were searched.

## Main results

* `Comment.strip_isInfix` — a stripped line is a piece of the line.
* `Comment.exists_of_mem_linesAbove`, `Comment.exists_of_mem_linesBelow` — the texts of a comment
  are pieces of the lines above or below.
-/

namespace DeclIndex.Comment

open Text

variable {markers : List Text}

/-! ## Stripped lines -/

/-- Markers stripped from the start leave an end of the line. -/
lemma stripStart_isSuffix (n : Nat) : ∀ line : Text, stripStart markers n line <:+ line := by
  induction n with
  | zero => exact fun line => List.suffix_refl line
  | succ n ih =>
    intro line
    rw [stripStart]
    split
    · exact List.suffix_refl line
    · cases opening? markers line with
      | none => exact List.suffix_refl line
      | some m => exact (ih _).trans ((trimStart_isSuffix _).trans (List.drop_suffix _ line))

/-- Markers stripped from the end leave a beginning of the line. -/
lemma stripEnd_isPrefix (n : Nat) : ∀ line : Text, stripEnd markers n line <+: line := by
  induction n with
  | zero => exact fun line => List.prefix_refl line
  | succ n ih =>
    intro line
    rw [stripEnd]
    split
    · exact List.prefix_refl line
    · cases ending? markers line with
      | none => exact List.prefix_refl line
      | some m => exact (ih _).trans ((trimEnd_isPrefix _).trans (List.take_prefix _ line))

/-- **A stripped line is a piece of the line.** -/
lemma strip_isInfix (markers : List Text) (line : Text) : strip markers line <:+: line :=
  (stripEnd_isPrefix _ _).isInfix.trans
    ((stripStart_isSuffix _ _).isInfix.trans (trim_isInfix line))

/-- The text of a comment line is a piece of the line. -/
lemma isInfix_of_mem_textOf {line t : Text} (h : t ∈ textOf markers line) : t <:+: line := by
  unfold textOf at h
  dsimp only at h
  split at h
  · exact absurd h List.not_mem_nil
  · rw [List.mem_singleton.mp h]
    exact strip_isInfix markers line

/-! ## Above and below -/

/-- The texts of a comment above a declaration are pieces of the lines above. -/
lemma exists_of_mem_linesAbove {depth : Nat} {above : List Text} {t : Text}
    (h : t ∈ linesAbove markers depth above) : ∃ line ∈ above, t <:+: line := by
  have hblock := linesAbove_eq_block markers id above depth
  rw [List.map_id] at hblock
  rw [hblock] at h
  obtain ⟨line, hline, ht⟩ := List.mem_flatMap.mp h
  exact ⟨line, mem_of_mem_block markers id (List.mem_reverse.mp hline),
    (isInfix_of_mem_textOf ht).trans (trim_isInfix line)⟩

/-- A piece of one of some lines, the first or a later one. -/
private lemma exists_of_mem_append {line : Text} {texts more below : List Text} {t : Text}
    (htexts : t ∈ texts → t <:+: line) (hmore : t ∈ more → ∃ l ∈ below, t <:+: l)
    (h : t ∈ texts ++ more) : ∃ l ∈ line :: below, t <:+: l := by
  rcases List.mem_append.mp h with h | h
  · exact ⟨line, List.mem_cons_self, htexts h⟩
  · obtain ⟨l, hl, ht⟩ := hmore h
    exact ⟨l, List.mem_cons_of_mem _ hl, ht⟩

/-- The texts up to a closing marker are pieces of the lines. -/
private lemma exists_of_mem_linesToMarker {marker t : Text} {below : List Text} :
    ∀ {depth : Nat}, t ∈ linesToMarker markers marker depth below →
      ∃ line ∈ below, t <:+: line := by
  induction below with
  | nil => intro depth h; cases depth <;> simp [linesToMarker] at h
  | cons line below ih =>
    intro depth h
    cases depth with
    | zero => simp [linesToMarker] at h
    | succ depth =>
      rw [linesToMarker] at h
      refine exists_of_mem_append
        (fun ht => (isInfix_of_mem_textOf ht).trans (trim_isInfix line)) (fun ht => ?_) h
      split at ht
      · exact absurd ht List.not_mem_nil
      · exact ih ht

/-- The texts of a run of lines with a marker are pieces of the lines. -/
private lemma exists_of_mem_linesWithMarker {marker t : Text} {below : List Text} :
    ∀ {depth : Nat}, t ∈ linesWithMarker markers marker depth below →
      ∃ line ∈ below, t <:+: line := by
  induction below with
  | nil => intro depth h; cases depth <;> simp [linesWithMarker] at h
  | cons line below ih =>
    intro depth h
    cases depth with
    | zero => simp [linesWithMarker] at h
    | succ depth =>
      rw [linesWithMarker] at h
      split at h
      · exact exists_of_mem_append
          (fun ht => (isInfix_of_mem_textOf ht).trans (trim_isInfix line)) ih h
      · exact absurd h List.not_mem_nil

/-- The texts of a documentation string are pieces of its first line and the lines below. -/
lemma exists_of_mem_linesBelow {depth : Nat} {first t : Text} {below : List Text}
    (h : t ∈ linesBelow markers depth first below) : ∃ line ∈ first :: below, t <:+: line := by
  unfold linesBelow at h
  split at h
  · exact absurd h List.not_mem_nil
  · exact absurd h List.not_mem_nil
  · split at h
    · split at h
      · exact ⟨first, List.mem_cons_self, isInfix_of_mem_textOf h⟩
      · exact exists_of_mem_append isInfix_of_mem_textOf exists_of_mem_linesToMarker h
    · exact exists_of_mem_linesWithMarker h

end DeclIndex.Comment
