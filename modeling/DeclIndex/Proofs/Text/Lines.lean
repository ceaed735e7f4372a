import DeclIndex.Proofs.Path
import DeclIndex.Proofs.Text.Lower
import DeclIndex.Proofs.Text.Trim
import DeclIndex.Text.Lines

/-!
# Texts on one line

A text without line breaks is one line. Pieces of a line are lines, lines joined by a line are a
line, and the lower case of a line is a line: no character has a line break for its lower case.
Cutting a text into lines gives lines, and undoes ending every line by a line feed.

## Main definitions

* `Text.IsLine` — a text without line breaks.
* `Text.ofLines` — lines one after the other, each ended by a line feed.

## Main results

* `Text.isLine_of_mem_splitLines` — what a text is cut into are lines.
* `Text.IsLine.lower` — the lower case of a line is a line.
* `Text.splitLines_ofLines` — cutting into lines undoes ending every line.
-/

namespace DeclIndex.Text

/-! ## Lines -/

/-- A text without line breaks. -/
def IsLine (t : Text) : Prop :=
  ∀ c ∈ t, isBreak c = false

instance (t : Text) : Decidable (IsLine t) :=
  List.decidableBAll (fun c => isBreak c = false) t

/-- The empty text has no line breaks. -/
@[simp]
lemma isLine_nil : IsLine [] :=
  List.forall_mem_nil _

/-- A character more is one more that must not be a line break. -/
lemma isLine_cons {c : Char} {t : Text} : IsLine (c :: t) ↔ isBreak c = false ∧ IsLine t :=
  List.forall_mem_cons

/-- Two texts make a line together if both are lines. -/
lemma isLine_append {t u : Text} : IsLine (t ++ u) ↔ IsLine t ∧ IsLine u :=
  List.forall_mem_append

/-- What holds of the members of a separator and of some lists holds of the members of the lists
with the separator between neighbours. -/
lemma forall_mem_intercalate {α : Type} {P : α → Prop} {separator : List α}
    (hseparator : ∀ a ∈ separator, P a) {parts : List (List α)} (h : ∀ l ∈ parts, ∀ a ∈ l, P a) :
    ∀ a ∈ List.intercalate separator parts, P a := by
  induction parts with
  | nil => simp
  | cons l parts ih =>
    obtain ⟨hl, hparts⟩ := List.forall_mem_cons.mp h
    by_cases hnil : parts = []
    · rw [hnil, List.intercalate_singleton]
      exact hl
    · rw [List.intercalate_cons_of_ne_nil hnil, List.forall_mem_append, List.forall_mem_append]
      exact ⟨⟨hl, hseparator⟩, ih hparts⟩

namespace IsLine

variable {t u : Text}

/-- A text is a line if its characters are among those of a line. -/
lemma subset (h : IsLine t) (hu : u ⊆ t) : IsLine u :=
  fun c hc => h c (hu hc)

/-- A piece of a line is a line. -/
lemma isInfix (h : IsLine t) (hu : u <:+: t) : IsLine u :=
  h.subset hu.subset

/-- A trimmed line is a line. -/
lemma trim (h : IsLine t) : IsLine (Text.trim t) :=
  h.isInfix (trim_isInfix t)

/-- **The lower case of a line is a line.** -/
lemma lower (h : IsLine t) : IsLine (Text.lower t) := by
  intro d hd
  obtain ⟨c, hc, passed, rest, hgiven⟩ := exists_of_mem_lower hd
  rw [isBreak_of_mem_lowerOf hgiven]
  exact h c hc

/-- Lines joined by a line are a line. -/
lemma joinWith {separator : Text} (hseparator : IsLine separator) {parts : List Text}
    (h : ∀ t ∈ parts, IsLine t) : IsLine (Text.joinWith separator parts) :=
  forall_mem_intercalate hseparator h

end IsLine

/-! ## Cutting into lines -/

/-- A character that is no line break is put in front of the first line. -/
lemma splitLines_cons {c : Char} (hc : isBreak c = false) (t : Text) :
    splitLines (c :: t) = consFirst c (splitLines t) := by
  have hpair : ∀ rest, c = '\r' → t = '\n' :: rest → False := by
    rintro rest rfl -
    exact absurd hc (by decide)
  rw [splitLines.eq_3 c t hpair, hc]
  rfl

/-- A line feed ends a line. -/
lemma splitLines_lineFeed (t : Text) : splitLines ('\n' :: t) = [] :: splitLines t := by
  rw [splitLines.eq_3 '\n' t fun _ h => absurd h (by decide)]
  rfl

/-- Lines with a character put in front of the first are lines if the character is no break. -/
private lemma isLine_of_mem_consFirst {c : Char} (hc : isBreak c = false) {lines : List Text}
    (h : ∀ l ∈ lines, IsLine l) : ∀ l ∈ consFirst c lines, IsLine l := by
  cases lines with
  | nil => simp [consFirst, isLine_cons, hc]
  | cons line rest =>
    obtain ⟨hline, hrest⟩ := List.forall_mem_cons.mp h
    exact List.forall_mem_cons.mpr ⟨isLine_cons.mpr ⟨hc, hline⟩, hrest⟩

/-- **What a text is cut into are lines.** -/
lemma isLine_of_mem_splitLines {t : Text} : ∀ l ∈ splitLines t, IsLine l := by
  induction t using splitLines.induct with
  | case1 => simp [splitLines]
  | case2 rest ih =>
    rw [splitLines]
    exact List.forall_mem_cons.mpr ⟨isLine_nil, ih⟩
  | case3 c rest hpair hbreak ih =>
    rw [splitLines.eq_3 c rest hpair, if_pos hbreak]
    exact List.forall_mem_cons.mpr ⟨isLine_nil, ih⟩
  | case4 c rest hpair hbreak ih =>
    rw [splitLines.eq_3 c rest hpair, if_neg hbreak]
    exact isLine_of_mem_consFirst (by simpa using hbreak) ih

/-- The first line ends at the first line feed. -/
lemma splitLines_append_lineFeed {l : Text} (h : IsLine l) (rest : Text) :
    splitLines (l ++ '\n' :: rest) = l :: splitLines rest := by
  induction l with
  | nil => exact splitLines_lineFeed rest
  | cons c l ih =>
    obtain ⟨hc, hl⟩ := isLine_cons.mp h
    rw [List.cons_append, splitLines_cons hc, ih hl]
    rfl

/-! ## Lines one after the other -/

/-- Lines one after the other, each ended by a line feed. -/
def ofLines (lines : List Text) : Text :=
  lines.flatMap fun l => l ++ ['\n']

@[simp]
lemma ofLines_nil : ofLines [] = [] := rfl

@[simp]
lemma ofLines_cons (l : Text) (lines : List Text) :
    ofLines (l :: lines) = l ++ '\n' :: ofLines lines := by
  rw [ofLines, List.flatMap_cons, List.append_assoc]
  rfl

@[simp]
lemma ofLines_append (lines more : List Text) :
    ofLines (lines ++ more) = ofLines lines ++ ofLines more :=
  List.flatMap_append

/-- Lines joined by line feeds lack only the last line feed. -/
lemma joinWith_append_lineFeed {lines : List Text} (h : lines ≠ []) :
    joinWith ['\n'] lines ++ ['\n'] = ofLines lines := by
  induction lines with
  | nil => exact absurd rfl h
  | cons l lines ih =>
    by_cases hnil : lines = []
    · rw [hnil, joinWith_singleton, ofLines_cons, ofLines_nil]
    · rw [joinWith_cons _ _ hnil, List.append_assoc, ih hnil, ofLines_cons, List.append_assoc]
      rfl

/-- **Cutting into lines undoes ending every line.**

**Proof sketch.** Induction on the lines: none holds a line break, so that each ends at the line feed
put after it. -/
theorem splitLines_ofLines {lines : List Text} (h : ∀ l ∈ lines, IsLine l) :
    splitLines (ofLines lines) = lines := by
  induction lines with
  | nil => rfl
  | cons l lines ih =>
    obtain ⟨hl, hlines⟩ := List.forall_mem_cons.mp h
    rw [ofLines_cons, splitLines_append_lineFeed hl, ih hlines]

end DeclIndex.Text
