import DeclIndex.Proofs.Comment.Above
import DeclIndex.Proofs.Comment.Marker
import DeclIndex.Proofs.Comment.Trimmed

/-!
# The documentation string below the line with a given index

The first line below a declaration that is not blank opens a documentation string if it begins with
a marker; the longest such marker is its mark. A quotation mark that stands there twice closes the
string on the same line. Otherwise it closes with the first later line that holds the mark. After a
mark that is no quotation mark, the string goes on as long as the lines begin with the mark. In all
cases it ends at the latest with the last line, or when as many lines are read as are asked for.

What a string covers is stated as a relation between the covered lines and the lines after them. The
documentation is made of the covered lines alone, so that the lines after them count only for where
the string ends.

## Main definitions

* `Comment.EndsAtOnce` — a documentation string that ends on the line on which it begins.
* `Comment.StopsAtMark`, `Comment.StopsAfterRun` — where longer documentation strings end.
* `Comment.Covers` — the lines that a documentation string covers.
* `Comment.Parts` — the lines below a declaration, taken apart at its documentation string.

## Main results

* `Comment.exists_parts`, `Comment.below_of_parts` — lines can be taken apart, and the documentation
  is made of the lines that are covered.
* `Comment.belowAt_closed_form` — the same by index; the lines after may be left out.
-/

namespace DeclIndex

/-- A text stands somewhere in another if it is a piece of it. -/
lemma Text.contains_iff_isInfix (part t : Text) : Text.contains part t = true ↔ part <:+: t := by
  induction t with
  | nil => rw [contains, List.isEmpty_iff, List.infix_nil]
  | cons c t ih =>
    rw [contains, Bool.or_eq_true, ih, List.isPrefixOf_iff_prefix, List.infix_cons_iff]

namespace Comment

open Text

/-! ## Where a documentation string ends -/

/-- A documentation string ends on the line on which it begins if its mark stands there twice, one
after the other, or once more at the end, where it may share characters with the first. -/
def EndsAtOnce (mark line : Text) : Prop :=
  (∃ a b c, line = a ++ mark ++ b ++ mark ++ c) ∨ (mark <:+ line ∧ mark.length < line.length)

/-- The lines `more` after the first of a documentation string between quotation marks: up to
`depth` lines, through the first that holds the mark. -/
structure StopsAtMark (mark : Text) (depth : Nat) (more after : List Text) : Prop where
  length_le : more.length ≤ depth
  inside : ∀ line ∈ more.dropLast, ¬ mark <:+: trim line
  stop : more.length = depth ∨ after = [] ∨ ∃ line ∈ more.getLast?, mark <:+: trim line

/-- The lines `more` after the first of any other documentation string: up to `depth` lines, while
they begin with the mark. -/
structure StopsAfterRun (mark : Text) (depth : Nat) (more after : List Text) : Prop where
  length_le : more.length ≤ depth
  inside : ∀ line ∈ more, mark <+: trim line
  stop : more.length = depth ∨ ∀ line ∈ after.head?, ¬ mark <+: trim line

/-- A line that is not blank, with the longest marker that it begins with. -/
structure Opens (markers : List Text) (first mark : Text) : Prop where
  not_blank : trim first ≠ []
  longest : IsLongest markers (fun m => m <+: trim first) mark

/-- The lines `covered` of a documentation string of up to `depth` lines, with the lines `after`
them. -/
inductive Covers (markers : List Text) : Nat → List Text → List Text → Prop
  /-- With no depth no line is covered. -/
  | noDepth {after : List Text} : Covers markers 0 [] after
  /-- Of no lines none is covered. -/
  | noLine {depth : Nat} : Covers markers depth [] []
  /-- A line without a marker opens no documentation string. -/
  | noMarker {depth : Nat} {first : Text} {after : List Text} (htext : trim first ≠ [])
      (hnone : ∀ m ∈ markers, ¬ m <+: trim first) : Covers markers depth [] (first :: after)
  /-- A string in quotation marks on one line. -/
  | line {depth : Nat} {first mark : Text} {after : List Text} (hopens : Opens markers first mark)
      (hquote : mark ∈ quoteMarkers) (hends : EndsAtOnce mark (trim first)) :
      Covers markers (depth + 1) [first] after
  /-- A string in quotation marks on several lines. -/
  | quoted {depth : Nat} {first mark : Text} {more after : List Text}
      (hopens : Opens markers first mark) (hquote : mark ∈ quoteMarkers)
      (hends : ¬ EndsAtOnce mark (trim first)) (hstop : StopsAtMark mark depth more after) :
      Covers markers (depth + 1) (first :: more) after
  /-- A run of lines with a marker. -/
  | run {depth : Nat} {first mark : Text} {more after : List Text}
      (hopens : Opens markers first mark) (hquote : mark ∉ quoteMarkers)
      (hstop : StopsAfterRun mark depth more after) :
      Covers markers (depth + 1) (first :: more) after

/-- The lines below a declaration: blank lines, the lines that its documentation string covers, and
the lines after them. -/
structure Parts (markers : List Text) (depth : Nat) (lines blanks covered after : List Text) :
    Prop where
  split : lines = blanks ++ covered ++ after
  blank : ∀ b ∈ blanks, trim b = []
  covers : Covers markers depth covered after

variable {markers : List Text} {mark line first : Text} {depth : Nat}
  {lines blanks covered more after : List Text}

/-! ### Line by line -/

/-- Without further lines, a string stops if it may not go on or there is nothing after it. -/
lemma stopsAtMark_nil_iff : StopsAtMark mark depth [] after ↔ depth = 0 ∨ after = [] := by
  constructor
  · rintro ⟨-, -, hstop⟩
    simpa [eq_comm] using hstop
  · intro h
    exact ⟨Nat.zero_le _, by simp, by simpa [eq_comm] using h⟩

/-- A further line is the last one if it holds the mark. -/
lemma stopsAtMark_cons_iff : StopsAtMark mark depth (line :: more) after ↔
    ∃ d, depth = d + 1 ∧
      ((mark <:+: trim line ∧ more = []) ∨
        (¬ mark <:+: trim line ∧ StopsAtMark mark d more after)) := by
  constructor
  · rintro ⟨hlength, hinside, hstop⟩
    obtain ⟨d, rfl⟩ : ∃ d, depth = d + 1 := ⟨depth - 1, by simp at hlength; omega⟩
    refine ⟨d, rfl, ?_⟩
    cases more with
    | nil =>
      by_cases hmark : mark <:+: trim line
      · exact Or.inl ⟨hmark, rfl⟩
      · refine Or.inr ⟨hmark, stopsAtMark_nil_iff.mpr ?_⟩
        simpa [hmark, eq_comm] using hstop
    | cons next more =>
      rw [List.dropLast_cons_cons] at hinside
      rw [List.getLast?_cons_cons, List.length_cons, Nat.add_right_cancel_iff] at hstop
      exact Or.inr ⟨hinside line List.mem_cons_self, Nat.le_of_succ_le_succ hlength,
        fun l hl => hinside l (List.mem_cons_of_mem _ hl), hstop⟩
  · rintro ⟨d, rfl, ⟨hmark, rfl⟩ | ⟨hmark, hlength, hinside, hstop⟩⟩
    · exact ⟨Nat.le_add_left 1 d, by simp, Or.inr (Or.inr ⟨line, rfl, hmark⟩)⟩
    · refine ⟨Nat.succ_le_succ hlength, ?_, ?_⟩
      · cases more with
        | nil => simp
        | cons next more =>
          rw [List.dropLast_cons_cons]
          exact List.forall_mem_cons.mpr ⟨hmark, hinside⟩
      · cases more with
        | nil => simpa [hmark, eq_comm] using hstop
        | cons next more =>
          rwa [List.getLast?_cons_cons, List.length_cons, Nat.add_right_cancel_iff]

/-- Without further lines, a run stops if it may not go on or no line with the mark follows. -/
lemma stopsAfterRun_nil_iff : StopsAfterRun mark depth [] after ↔
    depth = 0 ∨ ∀ line ∈ after.head?, ¬ mark <+: trim line := by
  constructor
  · rintro ⟨-, -, hstop⟩
    simpa [eq_comm] using hstop
  · intro h
    exact ⟨Nat.zero_le _, by simp, by simpa [eq_comm] using h⟩

/-- A further line of a run begins with the mark. -/
lemma stopsAfterRun_cons_iff : StopsAfterRun mark depth (line :: more) after ↔
    ∃ d, depth = d + 1 ∧ mark <+: trim line ∧ StopsAfterRun mark d more after := by
  constructor
  · rintro ⟨hlength, hinside, hstop⟩
    obtain ⟨d, rfl⟩ : ∃ d, depth = d + 1 := ⟨depth - 1, by simp at hlength; omega⟩
    rw [List.length_cons, Nat.add_right_cancel_iff] at hstop
    obtain ⟨hmark, hinside⟩ := List.forall_mem_cons.mp hinside
    exact ⟨d, rfl, hmark, Nat.le_of_succ_le_succ hlength, hinside, hstop⟩
  · rintro ⟨d, rfl, hmark, hlength, hinside, hstop⟩
    refine ⟨Nat.succ_le_succ hlength, List.forall_mem_cons.mpr ⟨hmark, hinside⟩, ?_⟩
    rwa [List.length_cons, Nat.add_right_cancel_iff]

/-! ## The lines that are read -/

/-- The texts through the mark are those of the lines where the string stops. -/
lemma linesToMarker_of_stopsAtMark (h : StopsAtMark mark depth more after) :
    linesToMarker markers mark depth (more ++ after) = more.flatMap (textOf markers) := by
  induction more generalizing depth with
  | nil =>
    rcases stopsAtMark_nil_iff.mp h with rfl | rfl
    · rw [linesToMarker, List.flatMap_nil]
    · cases depth <;> rfl
  | cons line more ih =>
    obtain ⟨d, rfl, hline⟩ := stopsAtMark_cons_iff.mp h
    rw [List.cons_append, linesToMarker, List.flatMap_cons]
    simp only [textOf_trim]
    rcases hline with ⟨hmark, rfl⟩ | ⟨hmark, hmore⟩
    · rw [if_pos ((contains_iff_isInfix _ _).mpr hmark), List.flatMap_nil]
    · rw [if_neg (mt (contains_iff_isInfix _ _).mp hmark), ih hmore]

/-- The texts of a run with a mark are those of the lines where the run stops. -/
lemma linesWithMarker_of_stopsAfterRun (h : StopsAfterRun mark depth more after) :
    linesWithMarker markers mark depth (more ++ after) = more.flatMap (textOf markers) := by
  induction more generalizing depth with
  | nil =>
    rcases stopsAfterRun_nil_iff.mp h with rfl | hafter
    · rw [linesWithMarker, List.flatMap_nil]
    · cases depth with
      | zero => rw [linesWithMarker, List.flatMap_nil]
      | succ d =>
        cases after with
        | nil => rfl
        | cons line after =>
          have hline : Text.startsWith (trim line) mark = false := by
            rw [← Bool.not_eq_true, startsWith, List.isPrefixOf_iff_prefix]
            exact hafter line rfl
          rw [List.nil_append, linesWithMarker]
          simp [hline]
  | cons line more ih =>
    obtain ⟨d, rfl, hmark, hmore⟩ := stopsAfterRun_cons_iff.mp h
    have hline : Text.startsWith (trim line) mark = true := List.isPrefixOf_iff_prefix.mpr hmark
    rw [List.cons_append, linesWithMarker, List.flatMap_cons, ← ih hmore]
    simp only [hline, textOf_trim, if_true]

/-- A line that begins with a mark closes at once if the string ends on it. -/
lemma closesAtOnce_iff (h : mark <+: line) :
    closesAtOnce mark line = true ↔ EndsAtOnce mark line := by
  obtain ⟨rest, rfl⟩ := h
  rw [closesAtOnce, Bool.or_eq_true, Bool.and_eq_true, List.drop_left, contains_iff_isInfix,
    endsWith, List.isSuffixOf_iff_suffix, decide_eq_true_eq, EndsAtOnce]
  refine or_congr_left ⟨?_, ?_⟩
  · rintro ⟨b, c, rfl⟩
    exact ⟨[], b, c, by simp⟩
  · rintro ⟨a, b, c, hsplit⟩
    -- The second of the two marks lies behind the one that the line begins with.
    have hlength := congrArg List.length hsplit
    simp only [List.length_append] at hlength
    have hsecond : mark ++ c <:+ mark ++ rest := ⟨a ++ mark ++ b, by simp [hsplit]⟩
    have hsuffix : mark ++ c <:+ rest :=
      List.suffix_of_suffix_length_le hsecond (List.suffix_append mark rest)
        (by rw [List.length_append]; omega)
    exact (List.prefix_append mark c).isInfix.trans hsuffix.isInfix

/-- With no depth there is no documentation string. -/
lemma below_zero (markers lines : List Text) : below markers 0 lines = [] := by
  have hnone : ∀ first rest, linesBelow markers 0 first rest = [] := by
    intro first rest
    unfold linesBelow
    cases opening? markers (trim first) <;> rfl
  unfold below
  simp only [hnone]
  cases lines.dropWhile fun line => (trim line).isEmpty <;> rfl

/-- The first line that is not blank decides on the documentation string. -/
lemma below_append_cons (hblank : ∀ b ∈ blanks, trim b = []) (hfirst : trim first ≠ [])
    (markers lines : List Text) (depth : Nat) :
    below markers depth (blanks ++ first :: lines) =
      joinWith [' '] (linesBelow markers depth first lines) := by
  have hdrop : (blanks ++ first :: lines).dropWhile (fun line => (trim line).isEmpty) =
      first :: lines := by
    rw [List.dropWhile_append_of_pos (by simpa using hblank),
      List.dropWhile_cons_of_neg (by simpa using hfirst)]
  rw [below, hdrop]

/-- Of blank lines alone there is no documentation string. -/
lemma below_of_blank (hblank : ∀ b ∈ blanks, trim b = []) (markers : List Text) (depth : Nat) :
    below markers depth blanks = [] := by
  have hdrop : blanks.dropWhile (fun line => (trim line).isEmpty) = [] :=
    List.dropWhile_eq_nil_iff.mpr (by simpa using hblank)
  rw [below, hdrop]

/-- What is read of a documentation string, by its mark. -/
lemma linesBelow_of_opens (h : Opens markers first mark) :
    linesBelow markers (depth + 1) first lines =
      if quoteMarkers.contains mark then
        if closesAtOnce mark (trim first) then textOf markers first
        else textOf markers first ++ linesToMarker markers mark depth lines
      else linesWithMarker markers mark (depth + 1) (first :: lines) := by
  unfold linesBelow
  rw [opening?_eq_some_iff.mpr h.longest]

/-- **The documentation is made of the lines that are covered.** -/
lemma below_of_parts (h : Parts markers depth lines blanks covered after) :
    below markers depth lines = oneLine markers covered := by
  obtain ⟨rfl, hblank, hcovers⟩ := h
  rw [oneLine, ← flatMap_textOf]
  cases hcovers with
  | noDepth => exact below_zero markers _
  | noLine =>
    rw [List.append_nil, List.append_nil]
    exact below_of_blank hblank markers depth
  | noMarker htext hnone =>
    rw [List.append_nil, below_append_cons hblank htext]
    unfold linesBelow
    rw [opening?_eq_none_iff.mpr hnone]
    rfl
  | line hopens hquote hends =>
    rw [List.append_assoc, List.singleton_append, below_append_cons hblank hopens.not_blank,
      linesBelow_of_opens hopens, if_pos (List.contains_iff_mem.mpr hquote),
      if_pos ((closesAtOnce_iff hopens.longest.passes).mpr hends), List.flatMap_singleton]
  | quoted hopens hquote hends hstop =>
    rw [List.append_assoc, List.cons_append, below_append_cons hblank hopens.not_blank,
      linesBelow_of_opens hopens, if_pos (List.contains_iff_mem.mpr hquote),
      if_neg (mt (closesAtOnce_iff hopens.longest.passes).mp hends),
      linesToMarker_of_stopsAtMark hstop, List.flatMap_cons]
  | run hopens hquote hstop =>
    have hrun := stopsAfterRun_cons_iff.mpr ⟨_, rfl, hopens.longest.passes, hstop⟩
    rw [List.append_assoc, List.cons_append, below_append_cons hblank hopens.not_blank,
      linesBelow_of_opens hopens, if_neg (mt List.contains_iff_mem.mp hquote),
      ← List.cons_append, linesWithMarker_of_stopsAfterRun hrun]

/-! ## Taking lines apart -/

/-- Some lines after the first are those of a string between quotation marks. -/
lemma exists_stopsAtMark (mark : Text) (depth : Nat) (lines : List Text) :
    ∃ more after, lines = more ++ after ∧ StopsAtMark mark depth more after := by
  induction lines generalizing depth with
  | nil => exact ⟨[], [], rfl, stopsAtMark_nil_iff.mpr (Or.inr rfl)⟩
  | cons line lines ih =>
    cases depth with
    | zero => exact ⟨[], line :: lines, rfl, stopsAtMark_nil_iff.mpr (Or.inl rfl)⟩
    | succ d =>
      by_cases hmark : mark <:+: trim line
      · exact ⟨[line], lines, rfl, stopsAtMark_cons_iff.mpr ⟨d, rfl, Or.inl ⟨hmark, rfl⟩⟩⟩
      · obtain ⟨more, after, rfl, hmore⟩ := ih d
        exact ⟨line :: more, after, rfl,
          stopsAtMark_cons_iff.mpr ⟨d, rfl, Or.inr ⟨hmark, hmore⟩⟩⟩

/-- Some lines after the first are those of a run with a mark. -/
lemma exists_stopsAfterRun (mark : Text) (depth : Nat) (lines : List Text) :
    ∃ more after, lines = more ++ after ∧ StopsAfterRun mark depth more after := by
  induction lines generalizing depth with
  | nil => exact ⟨[], [], rfl, stopsAfterRun_nil_iff.mpr (Or.inr (by simp))⟩
  | cons line lines ih =>
    cases depth with
    | zero => exact ⟨[], line :: lines, rfl, stopsAfterRun_nil_iff.mpr (Or.inl rfl)⟩
    | succ d =>
      by_cases hmark : mark <+: trim line
      · obtain ⟨more, after, rfl, hmore⟩ := ih d
        exact ⟨line :: more, after, rfl, stopsAfterRun_cons_iff.mpr ⟨d, rfl, hmark, hmore⟩⟩
      · exact ⟨[], line :: lines, rfl, stopsAfterRun_nil_iff.mpr (Or.inr (by simpa using hmark))⟩

/-- **The lines below a declaration can be taken apart** at its documentation string. -/
lemma exists_parts (markers : List Text) (depth : Nat) (lines : List Text) :
    ∃ blanks covered after, Parts markers depth lines blanks covered after := by
  have hsplit := (List.takeWhile_append_dropWhile (p := fun line => (trim line).isEmpty)
    (l := lines)).symm
  have hblank : ∀ b ∈ lines.takeWhile fun line => (trim line).isEmpty, trim b = [] :=
    fun b hb => by simpa using List.mem_takeWhile_imp hb
  have hfirst := List.head?_dropWhile_not (fun line => (trim line).isEmpty) lines
  generalize lines.takeWhile (fun line => (trim line).isEmpty) = blanks at hsplit hblank
  generalize lines.dropWhile (fun line => (trim line).isEmpty) = rest at hsplit hfirst
  subst hsplit
  refine ⟨blanks, ?_⟩
  cases rest with
  | nil => exact ⟨[], [], by simp, hblank, .noLine⟩
  | cons first lines =>
    have htext : trim first ≠ [] := by simpa using hfirst
    cases depth with
    | zero => exact ⟨[], first :: lines, by simp, hblank, .noDepth⟩
    | succ depth =>
      cases hopening : opening? markers (trim first) with
      | none =>
        exact ⟨[], first :: lines, by simp, hblank,
          .noMarker htext (opening?_eq_none_iff.mp hopening)⟩
      | some mark =>
        have hopens : Opens markers first mark := ⟨htext, opening?_eq_some_iff.mp hopening⟩
        by_cases hquote : mark ∈ quoteMarkers
        · by_cases hends : EndsAtOnce mark (trim first)
          · exact ⟨[first], lines, by simp, hblank, .line hopens hquote hends⟩
          · obtain ⟨more, after, rfl, hstop⟩ := exists_stopsAtMark mark depth lines
            exact ⟨first :: more, after, by simp, hblank, .quoted hopens hquote hends hstop⟩
        · obtain ⟨more, after, rfl, hstop⟩ := exists_stopsAfterRun mark depth lines
          exact ⟨first :: more, after, by simp, hblank, .run hopens hquote hstop⟩

/-- The lines after a documentation string may be left out. -/
lemma Covers.without (h : Covers markers depth covered after) :
    Covers markers depth covered [] := by
  cases h with
  | noDepth => exact .noDepth
  | noLine => exact .noLine
  | noMarker htext hnone => exact .noLine
  | line hopens hquote hends => exact .line hopens hquote hends
  | quoted hopens hquote hends hstop =>
    exact .quoted hopens hquote hends ⟨hstop.length_le, hstop.inside, Or.inr (Or.inl rfl)⟩
  | run hopens hquote hstop =>
    exact .run hopens hquote ⟨hstop.length_le, hstop.inside, Or.inr (by simp)⟩

/-! ## By index -/

/-- **The documentation string below a line in closed form.** The lines below can be taken apart at
it. However they are taken apart, the documentation is made of the covered lines. It is the same in
all lists that hold these lines below the index, if they end there or the lines that follow instead
leave the string where it stops.

**Proof sketch.** What is read of a string follows its kind: one line, the lines through the mark
(`linesToMarker_of_stopsAtMark`) or the run (`linesWithMarker_of_stopsAfterRun`). The covered lines
are still covered when nothing comes after them (`Covers.without`). -/
theorem belowAt_closed_form (markers lines : List Text) (index depth : Int) :
    (∃ blanks covered after,
      Parts markers depth.toNat (lines.drop (index + 1).toNat) blanks covered after) ∧
    ∀ blanks covered after,
      Parts markers depth.toNat (lines.drop (index + 1).toNat) blanks covered after →
      belowAt markers lines index depth = oneLine markers covered ∧
        ∀ others after', others.drop (index + 1).toNat = blanks ++ covered ++ after' →
          (after' = [] ∨ Covers markers depth.toNat covered after') →
          belowAt markers others index depth = belowAt markers lines index depth := by
  refine ⟨exists_parts _ _ _, fun blanks covered after h => ?_⟩
  have hlines : belowAt markers lines index depth = oneLine markers covered := below_of_parts h
  refine ⟨hlines, fun others after' hsplit hstop => ?_⟩
  have hcovers : Covers markers depth.toNat covered after' := by
    rcases hstop with rfl | hcovers
    · exact h.covers.without
    · exact hcovers
  rw [hlines]
  exact below_of_parts ⟨hsplit, h.blank, hcovers⟩

/-- A string of three lines of which two are read: what stands on the third makes no difference. -/
theorem belowAt_closed_form_of_bounded_string :
    Parts quoteMarkers 2 ["", "  \"\"\"First.", "  Second.", "  Third.\"\"\""] [""]
        ["  \"\"\"First.", "  Second."] ["  Third.\"\"\""] ∧
      belowAt quoteMarkers ["def f():", "", "  \"\"\"First.", "  Second.", "  Third.\"\"\""] 0 2 =
        "First. Second." ∧
      belowAt quoteMarkers ["def f():", "", "  \"\"\"First.", "  Second."] 0 2 =
        "First. Second." := by
  have hopens : Opens quoteMarkers "  \"\"\"First." "\"\"\"" :=
    ⟨by decide, opening?_eq_some_iff.mp (by decide)⟩
  have hends : ¬ EndsAtOnce "\"\"\"" (trim "  \"\"\"First.") :=
    mt (closesAtOnce_iff hopens.longest.passes).mpr (by decide)
  have hparts : Parts quoteMarkers 2 ["", "  \"\"\"First.", "  Second.", "  Third.\"\"\""] [""]
      ["  \"\"\"First.", "  Second."] ["  Third.\"\"\""] :=
    ⟨rfl, by decide, .quoted hopens (by decide) hends ⟨le_rfl, by simp, Or.inl rfl⟩⟩
  obtain ⟨hwhole, hothers⟩ := (belowAt_closed_form quoteMarkers
    ["def f():", "", "  \"\"\"First.", "  Second.", "  Third.\"\"\""] 0 2).2 _ _ _ hparts
  have hjoined : oneLine quoteMarkers ["  \"\"\"First.", "  Second."] = "First. Second." := by
    decide
  have hcut := hothers ["def f():", "", "  \"\"\"First.", "  Second."] [] rfl (Or.inl rfl)
  exact ⟨hparts, hwhole.trans hjoined, hcut.trans (hwhole.trans hjoined)⟩

end Comment

end DeclIndex
