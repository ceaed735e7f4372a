import DeclIndex.Proofs.Text.Lines

/-!
# Line ends

The lines of a file end in a line feed, a carriage return, or both. A text has the same lines after
all of these are made one. So its line ends can be exchanged for one another, unless a carriage
return is put directly before a line feed that was the end of an empty line: the two then become
one, and a line is lost.

## Main definitions

* `Text.LineEnd` — a line end.
* `Text.withEnds` — lines with their ends, and a last line without one.
* `Text.joinsEnds` — a carriage return stands before the line feed that ends an empty line.

## Main results

* `Text.splitLines_unifyBreaks` — a text has the same lines after its line ends are made one.
* `Text.exists_withEnds` — every text is made of lines with their ends.
* `Text.splitLines_withEnds_eq_iff` — which exchanges of line ends keep the lines.
-/

namespace DeclIndex.Text

/-! ## Lines with their ends -/

/-- A line end. -/
inductive LineEnd
  | lineFeed
  | carriageReturn
  /-- A carriage return with a line feed. -/
  | pair
  deriving DecidableEq, Repr

/-- The characters of a line end. -/
def LineEnd.text : LineEnd → Text
  | .lineFeed => ['\n']
  | .carriageReturn => ['\r']
  | .pair => ['\r', '\n']

/-- Lines with their ends, and a last line without one. -/
def withEnds (lines : List (Text × LineEnd)) (last : Text) : Text :=
  lines.flatMap (fun l => l.1 ++ l.2.text) ++ last

/-- A text without line feeds and carriage returns. It may hold other line breaks. -/
def IsUnended (t : Text) : Prop :=
  '\n' ∉ t ∧ '\r' ∉ t

instance (t : Text) : Decidable (IsUnended t) :=
  inferInstanceAs (Decidable (_ ∧ _))

/-- Whether a carriage return stands directly before the line feed that ends an empty line, so that
the two are one line end. -/
def joinsEnds : List (Text × LineEnd) → Bool
  | [] => false
  | (_, e) :: lines =>
    (e == .carriageReturn && lines.head? == some ([], .lineFeed)) || joinsEnds lines

/-- The lines that are left where line ends are joined. -/
def joined : List (Text × LineEnd) → List Text
  | [] => []
  | (l, .carriageReturn) :: ([], .lineFeed) :: lines => l :: joined lines
  | (l, _) :: lines => l :: joined lines

@[simp]
lemma withEnds_nil (last : Text) : withEnds [] last = last := rfl

@[simp]
lemma withEnds_cons (l : Text) (e : LineEnd) (lines : List (Text × LineEnd)) (last : Text) :
    withEnds ((l, e) :: lines) last = l ++ (e.text ++ withEnds lines last) := by
  simp [withEnds]

/-! ## One line end for all -/

/-- A line break other than a carriage return ends a line by itself. -/
lemma splitLines_cons_of_isBreak {c : Char} (hc : isBreak c = true) (hreturn : c ≠ '\r')
    (t : Text) : splitLines (c :: t) = [] :: splitLines t := by
  rw [splitLines.eq_3 c t fun _ h => absurd h hreturn, if_pos hc]

/-- **A text has the same lines after its line ends are made one.**

**Proof sketch.** Induction along the cutting into lines: a carriage return ends a line, alone or
with the line feed after it, and so does the line feed that is put in its place. -/
theorem splitLines_unifyBreaks (t : Text) : splitLines (unifyBreaks t) = splitLines t := by
  induction t using splitLines.induct with
  | case1 => rfl
  | case2 rest ih => rw [unifyBreaks, splitLines_lineFeed, ih, splitLines]
  | case3 c rest hpair hbreak ih =>
    rw [unifyBreaks.eq_3 c rest hpair, splitLines.eq_3 c rest hpair, if_pos hbreak]
    by_cases hc : c = '\r'
    · rw [if_pos hc, splitLines_lineFeed, ih]
    · rw [if_neg hc, splitLines_cons_of_isBreak hbreak hc, ih]
  | case4 c rest hpair hbreak ih =>
    have hc : c ≠ '\r' := by
      rintro rfl
      exact hbreak rfl
    rw [unifyBreaks.eq_3 c rest hpair, if_neg hc, splitLines_cons (by simpa using hbreak),
      splitLines_cons (by simpa using hbreak), ih]

/-- Two texts have their line ends made one apart from each other, unless a line end lies across
them. -/
lemma unifyBreaks_append {t rest : Text}
    (h : t.getLast? ≠ some '\r' ∨ rest.head? ≠ some '\n') :
    unifyBreaks (t ++ rest) = unifyBreaks t ++ unifyBreaks rest := by
  induction t using unifyBreaks.induct with
  | case1 => rfl
  | case2 t ih =>
    have ht : t.getLast? ≠ some '\r' ∨ rest.head? ≠ some '\n' := by
      refine h.imp_left fun hlast heq => hlast ?_
      rw [List.getLast?_cons_cons, List.getLast?_cons, heq]
      rfl
    rw [List.cons_append, List.cons_append, unifyBreaks, ih ht, unifyBreaks]
    rfl
  | case3 c t hpair ih =>
    have ht : t.getLast? ≠ some '\r' ∨ rest.head? ≠ some '\n' := by
      refine h.imp_left fun hlast heq => hlast ?_
      rw [List.getLast?_cons, heq]
      rfl
    have hpair' : ∀ more, c = '\r' → t ++ rest = '\n' :: more → False := by
      rintro more rfl heq
      cases t with
      | nil =>
        rw [List.nil_append] at heq
        rcases h with hlast | hhead
        · exact hlast rfl
        · exact hhead (by rw [heq]; rfl)
      | cons d t =>
        obtain ⟨rfl, -⟩ := List.cons.inj heq
        exact hpair t rfl rfl
    rw [List.cons_append, unifyBreaks.eq_3 c (t ++ rest) hpair', ih ht, unifyBreaks.eq_3 c t hpair]
    rfl

/-- A text without carriage returns keeps its line ends. -/
lemma unifyBreaks_append_of_not_mem {t : Text} (h : '\r' ∉ t) (rest : Text) :
    unifyBreaks (t ++ rest) = t ++ unifyBreaks rest := by
  induction t with
  | nil => rfl
  | cons c t ih =>
    obtain ⟨hc, ht⟩ := not_or.mp (List.mem_cons.not.mp h)
    rw [List.cons_append, unifyBreaks.eq_3 c (t ++ rest) fun _ heq => absurd heq.symm hc,
      if_neg (Ne.symm hc), ih ht]
    rfl

/-- A text without carriage returns stays as it is. -/
lemma unifyBreaks_of_not_mem {t : Text} (h : '\r' ∉ t) : unifyBreaks t = t := by
  have happend := unifyBreaks_append_of_not_mem h []
  rwa [List.append_nil, unifyBreaks, List.append_nil] at happend

/-- A character other than a carriage return stays as it is. -/
lemma unifyBreaks_cons {c : Char} (hc : c ≠ '\r') (t : Text) :
    unifyBreaks (c :: t) = c :: unifyBreaks t :=
  unifyBreaks_append_of_not_mem (List.mem_singleton.not.mpr hc.symm) t

/-- A character that is no part of a line end stays as it is, between two texts. -/
lemma unifyBreaks_append_cons {c : Char} (hreturn : c ≠ '\r') (hfeed : c ≠ '\n') (t rest : Text) :
    unifyBreaks (t ++ c :: rest) = unifyBreaks t ++ c :: unifyBreaks rest := by
  rw [unifyBreaks_append (.inr (by simpa using hfeed)), unifyBreaks_cons hreturn]

/-! ## Texts as lines with their ends -/

/-- The line end after a line does not begin with a line feed unless the line is empty and ends in
one. -/
lemma withEnds_ne_lineFeed {lines : List (Text × LineEnd)} {last : Text}
    (hlines : ∀ l ∈ lines, IsUnended l.1) (hlast : IsUnended last)
    (h : ∀ rest, lines ≠ ([], .lineFeed) :: rest) (rest : Text) :
    withEnds lines last ≠ '\n' :: rest := by
  intro heq
  cases lines with
  | nil =>
    rw [withEnds_nil] at heq
    exact hlast.1 (heq ▸ List.mem_cons_self)
  | cons first lines =>
    obtain ⟨l, e⟩ := first
    rw [withEnds_cons] at heq
    cases l with
    | nil =>
      cases e with
      | lineFeed => exact h lines rfl
      | carriageReturn => exact absurd (List.cons.inj heq).1 (by decide)
      | pair => exact absurd (List.cons.inj heq).1 (by decide)
    | cons c l =>
      have hc : c = '\n' := (List.cons.inj heq).1
      exact (hlines _ List.mem_cons_self).1 (hc ▸ List.mem_cons_self)

/-- Lines with their ends, after these are made one. -/
lemma unifyBreaks_withEnds {lines : List (Text × LineEnd)} {last : Text}
    (hlines : ∀ l ∈ lines, IsUnended l.1) (hlast : IsUnended last) :
    unifyBreaks (withEnds lines last) = ofLines (joined lines) ++ last := by
  have hplain := unifyBreaks_append_of_not_mem hlast.2 []
  fun_induction joined lines with
  | case1 => simpa [unifyBreaks] using hplain
  | case2 l lines ih =>
    obtain ⟨hl, hlines⟩ := List.forall_mem_cons.mp hlines
    rw [withEnds_cons, unifyBreaks_append_of_not_mem hl.2, withEnds_cons, LineEnd.text,
      LineEnd.text, List.nil_append, List.cons_append, List.nil_append, List.cons_append,
      List.nil_append, unifyBreaks, ih (List.forall_mem_cons.mp hlines).2]
    simp
  | case3 l e lines hjoin ih =>
    obtain ⟨hl, hrest⟩ := List.forall_mem_cons.mp hlines
    rw [withEnds_cons, unifyBreaks_append_of_not_mem hl.2]
    have hend : unifyBreaks (e.text ++ withEnds lines last) =
        '\n' :: unifyBreaks (withEnds lines last) := by
      cases e with
      | lineFeed => exact unifyBreaks.eq_3 _ _ fun _ h => absurd h (by decide)
      | pair => exact unifyBreaks.eq_2 _
      | carriageReturn =>
        have hnext := withEnds_ne_lineFeed hrest hlast fun rest h => hjoin rest h rfl
        exact unifyBreaks.eq_3 _ _ fun rest _ => hnext rest
    rw [hend, ih hrest]
    simp

/-- **Every text is made of lines with their ends.** -/
lemma exists_withEnds (t : Text) : ∃ lines last, (∀ l ∈ lines, IsUnended l.1) ∧ IsUnended last ∧
    joinsEnds lines = false ∧ withEnds lines last = t := by
  induction t using unifyBreaks.induct with
  | case1 => exact ⟨[], [], nofun, by decide, rfl, rfl⟩
  | case2 rest ih =>
    obtain ⟨lines, last, hlines, hlast, hjoin, rfl⟩ := ih
    exact ⟨([], .pair) :: lines, last, List.forall_mem_cons.mpr ⟨by decide, hlines⟩, hlast,
      by simpa [joinsEnds] using hjoin, by simp [LineEnd.text]⟩
  | case3 c rest hpair ih =>
    obtain ⟨lines, last, hlines, hlast, hjoin, rfl⟩ := ih
    by_cases hfeed : c = '\n'
    · subst hfeed
      exact ⟨([], .lineFeed) :: lines, last, List.forall_mem_cons.mpr ⟨by decide, hlines⟩, hlast,
        by simpa [joinsEnds] using hjoin, by simp [LineEnd.text]⟩
    by_cases hreturn : c = '\r'
    · subst hreturn
      refine ⟨([], .carriageReturn) :: lines, last, List.forall_mem_cons.mpr ⟨by decide, hlines⟩,
        hlast, ?_, by simp [LineEnd.text]⟩
      have hhead : lines.head? ≠ some ([], .lineFeed) := by
        intro hhead
        obtain ⟨more, rfl⟩ := List.head?_eq_some_iff.mp hhead
        exact hpair _ rfl (withEnds_cons _ _ _ _)
      simpa [joinsEnds, hhead] using hjoin
    · cases lines with
      | nil =>
        have hlast' : IsUnended (c :: last) := by
          simpa [IsUnended, Ne.symm hfeed, Ne.symm hreturn] using hlast
        exact ⟨[], c :: last, nofun, hlast', rfl, rfl⟩
      | cons first lines =>
        obtain ⟨l, e⟩ := first
        obtain ⟨hl, hlines⟩ := List.forall_mem_cons.mp hlines
        refine ⟨(c :: l, e) :: lines, last, List.forall_mem_cons.mpr ⟨?_, hlines⟩, hlast, ?_,
          by simp⟩
        · simpa [IsUnended, Ne.symm hfeed, Ne.symm hreturn] using hl
        · simpa [joinsEnds] using hjoin

/-! ## Exchanging line ends -/

/-- Lines stay apart if no line ends are joined. -/
lemma joined_of_joinsEnds {lines : List (Text × LineEnd)} (h : joinsEnds lines = false) :
    joined lines = lines.map (·.1) := by
  fun_induction joined lines with
  | case1 => rfl
  | case2 l lines ih => simp [joinsEnds] at h
  | case3 l e lines hjoin ih =>
    rw [joinsEnds, Bool.or_eq_false_iff] at h
    rw [ih h.2, List.map_cons]

/-- Only the empty text has no lines. -/
lemma splitLines_ne_nil {t : Text} (h : t ≠ []) : splitLines t ≠ [] := by
  fun_cases splitLines t with
  | case1 => exact absurd rfl h
  | case2 rest => exact List.cons_ne_nil _ _
  | case3 c rest hpair hbreak => exact List.cons_ne_nil _ _
  | case4 c rest hpair hbreak => cases splitLines rest <;> exact List.cons_ne_nil _ _

/-- A character is put in front of the first line, whatever lines follow. -/
lemma consFirst_append {c : Char} {lines : List Text} (h : lines ≠ []) (more : List Text) :
    consFirst c (lines ++ more) = consFirst c lines ++ more := by
  obtain ⟨line, rest, rfl⟩ := List.exists_cons_of_ne_nil h
  rfl

/-- A line feed ends a line, also if there are other line breaks before it. -/
lemma splitLines_append_cons {l : Text} (hl : '\r' ∉ l) (rest : Text) :
    splitLines (l ++ '\n' :: rest) = splitLines (l ++ ['\n']) ++ splitLines rest := by
  induction l with
  | nil => exact splitLines_lineFeed rest
  | cons c l ih =>
    obtain ⟨hc, hl⟩ := not_or.mp (List.mem_cons.not.mp hl)
    rw [List.cons_append, List.cons_append]
    by_cases hbreak : isBreak c = true
    · rw [splitLines_cons_of_isBreak hbreak (Ne.symm hc), ih hl,
        splitLines_cons_of_isBreak hbreak (Ne.symm hc)]
      rfl
    · rw [Bool.not_eq_true] at hbreak
      rw [splitLines_cons hbreak, ih hl, splitLines_cons hbreak,
        consFirst_append (splitLines_ne_nil (by simp))]

/-- The number of lines that a line with a line feed is cut into. There is more than one if it holds
other line breaks. -/
def lineCount (l : Text) : ℕ :=
  (splitLines (l ++ ['\n'])).length

/-- The number of lines of a text whose lines end in line feeds. -/
lemma length_splitLines_ofLines {lines : List Text} (h : ∀ l ∈ lines, '\r' ∉ l) (last : Text) :
    (splitLines (ofLines lines ++ last)).length =
      (lines.map lineCount).sum + (splitLines last).length := by
  induction lines with
  | nil => simp
  | cons l lines ih =>
    obtain ⟨hl, hlines⟩ := List.forall_mem_cons.mp h
    rw [ofLines_cons, List.append_assoc, List.cons_append, splitLines_append_cons hl,
      List.length_append, ih hlines, List.map_cons, List.sum_cons, lineCount, Nat.add_assoc]

/-- The lines that are left are among the lines. -/
lemma joined_sublist (lines : List (Text × LineEnd)) :
    (joined lines).Sublist (lines.map (·.1)) := by
  fun_induction joined lines with
  | case1 => exact List.Sublist.slnil
  | case2 l lines ih => exact (ih.cons []).cons_cons l
  | case3 l e lines hjoin ih => exact ih.cons_cons l

/-- Where line ends are joined, a line is lost. -/
lemma sum_lineCount_joined_lt {lines : List (Text × LineEnd)} (h : joinsEnds lines = true) :
    ((joined lines).map lineCount).sum < ((lines.map (·.1)).map lineCount).sum := by
  fun_induction joined lines with
  | case1 => cases h
  | case2 l lines ih =>
    have hone : lineCount [] = 1 := rfl
    have hle := ((joined_sublist lines).map lineCount).sum_le_sum fun n _ => Nat.zero_le n
    simp only [List.map_cons, List.sum_cons, hone]
    omega
  | case3 l e lines hjoin ih =>
    have hnot : (e == .carriageReturn && lines.head? == some ([], .lineFeed)) = false := by
      rw [Bool.eq_false_iff, ne_eq, Bool.and_eq_true, beq_iff_eq, beq_iff_eq]
      rintro ⟨he, hhead⟩
      obtain ⟨more, rfl⟩ := List.head?_eq_some_iff.mp hhead
      exact hjoin more rfl he
    rw [joinsEnds, hnot, Bool.false_or] at h
    have hlt := ih h
    simp only [List.map_cons, List.sum_cons]
    omega

/-- **Which exchanges of line ends keep the lines**: those that join no line ends.

**Proof sketch.** Made one, the ends of both texts are line feeds, after the same lines if none are
joined. Where line ends are joined there are fewer lines. -/
theorem splitLines_withEnds_eq_iff {lines lines' : List (Text × LineEnd)} {last : Text}
    (hlines : ∀ l ∈ lines, IsUnended l.1) (hlast : IsUnended last)
    (hjoin : joinsEnds lines = false) (hsame : lines'.map (·.1) = lines.map (·.1)) :
    splitLines (withEnds lines' last) = splitLines (withEnds lines last) ↔
      joinsEnds lines' = false := by
  have hlines' : ∀ l ∈ lines', IsUnended l.1 := by
    intro l hl
    have hmem : l.1 ∈ lines.map (·.1) := hsame ▸ List.mem_map_of_mem hl
    obtain ⟨l', hl', heq⟩ := List.mem_map.mp hmem
    exact heq ▸ hlines l' hl'
  rw [← splitLines_unifyBreaks (withEnds lines last),
    ← splitLines_unifyBreaks (withEnds lines' last),
    unifyBreaks_withEnds hlines hlast, unifyBreaks_withEnds hlines' hlast,
    joined_of_joinsEnds hjoin]
  constructor
  · intro heq
    by_contra hnot
    have hlt := sum_lineCount_joined_lt (by simpa using hnot)
    have hreturn : ∀ l ∈ lines'.map (·.1), '\r' ∉ l := by
      intro l hl
      obtain ⟨l', hl', rfl⟩ := List.mem_map.mp hl
      exact (hlines' l' hl').2
    have hlength := congrArg List.length heq
    rw [← hsame, length_splitLines_ofLines hreturn, length_splitLines_ofLines
      fun l hl => hreturn l ((joined_sublist lines').subset hl)] at hlength
    omega
  · intro hjoin'
    rw [joined_of_joinsEnds hjoin', hsame]

end DeclIndex.Text
