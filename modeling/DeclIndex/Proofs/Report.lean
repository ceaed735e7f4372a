import DeclIndex.Language.Python
import DeclIndex.Language.Rust
import DeclIndex.Proofs.Profile.OneLine
import DeclIndex.Report

/-!
# Lines of a report

A report in text keeps its lines. Every element takes one line that is not empty, a block is a path
and the lines of the elements below it, and the only empty lines stand between the blocks. So the
blocks can be read back from the text, whatever was declared.

## Main definitions

* `Report.Source` — a text with its path and the profile of its language.
* `Report.lines` — the lines of the block of an outline.
* `Report.blocks` — the blocks that are read back from a text.

## Main results

* `Report.text_eq_ofLines` — a report is its blocks, with an empty line between neighbours.
* `Report.isLine_line` — an element whose texts are lines takes one line.
* `Report.text_keeps_lines` — the blocks of a report are read back from its lines.
-/

namespace DeclIndex.Report

open Text

/-- A text with its path and the profile of its language. -/
structure Source where
  profile : Profile
  path : Text
  content : Text

/-- The outline of a source. -/
def Source.outline (s : Source) : Outline :=
  s.profile.outline s.path s.content

/-- The lines of the block of an outline: its path, then a line for each element. -/
def lines (o : Outline) : List Text :=
  o.path :: o.elements.map line

/-- The blocks of a text: its lines, cut at the empty ones. A text without lines has no blocks. -/
def blocks (t : Text) : List (List Text) :=
  if (splitLines t).isEmpty then [] else (splitLines t).splitOn []

/-! ## Lines of elements -/

/-- The line of an element is never empty. -/
lemma line_ne_nil (e : Element) : line e ≠ [] := by
  simp [line]

/-- A part of a line is a line if its label and its text are. -/
lemma isLine_part {label t : Text} (hlabel : IsLine label) (ht : IsLine t) :
    IsLine (part label t) := by
  have hseparator : IsLine separator := by decide
  unfold part
  split
  · exact isLine_nil
  · rw [isLine_append, isLine_append]
    exact ⟨⟨hseparator, hlabel⟩, ht⟩

/-- **An element whose texts are lines takes one line.** -/
lemma isLine_line {e : Element} (h : ∀ t ∈ e.texts, IsLine t) : IsLine (line e) := by
  simp only [Element.texts, List.forall_mem_cons] at h
  obtain ⟨hkind, hname, hvisibility, hparent, hdocumentation, _⟩ := h
  have hopen : IsLine ['['] := by decide
  have hclose : IsLine [']', ' '] := by decide
  have hspace : IsLine [' '] := by decide
  have hcall : IsLine (if e.kind.isCallable then ['(', ')'] else []) := by
    split <;> decide
  have hlabel : IsLine "inherited " := by decide
  have hinherited := isLine_part hlabel hparent
  have hcomment := isLine_part isLine_nil hdocumentation
  simp only [line, isLine_append, and_assoc]
  exact ⟨hopen, hvisibility, hclose, hkind, hspace, hname, hcall, hinherited, hcomment⟩

/-! ## Lines of reports -/

/-- The block of an outline lacks only the line feed that ends its last line. -/
lemma block_append_lineFeed (o : Outline) : block o ++ ['\n'] = ofLines (lines o) :=
  joinWith_append_lineFeed (List.cons_ne_nil _ _)

/-- An empty line stands between the first block and the others. -/
lemma text_cons (o : Outline) {outlines : List Outline} (h : outlines ≠ []) :
    text (o :: outlines) = ofLines (lines o) ++ '\n' :: text outlines := by
  have hblocks : outlines.map block ≠ [] := by simpa using h
  have hempty : outlines.isEmpty = false := by simpa using h
  rw [text, List.map_cons, joinWith_cons _ _ hblocks, ← block_append_lineFeed, text, hempty]
  simp

/-- **A report is its blocks**, with an empty line between neighbours. -/
lemma text_eq_ofLines (outlines : List Outline) :
    text outlines = ofLines (List.intercalate [[]] (outlines.map lines)) := by
  induction outlines with
  | nil => rfl
  | cons o outlines ih =>
    by_cases h : outlines = []
    · rw [h, text, List.map_singleton, joinWith_singleton, List.map_singleton,
        List.intercalate_singleton, ← block_append_lineFeed]
      rfl
    · have hlines : outlines.map lines ≠ [] := by simpa using h
      rw [text_cons o h, ih, List.map_cons, List.intercalate_cons_of_ne_nil hlines]
      simp

/-- The lines of a report, if every line of a block is one line. -/
lemma splitLines_text {outlines : List Outline} (h : ∀ o ∈ outlines, ∀ l ∈ lines o, IsLine l) :
    splitLines (text outlines) = List.intercalate [[]] (outlines.map lines) := by
  rw [text_eq_ofLines]
  apply splitLines_ofLines
  apply forall_mem_intercalate
  · simp
  · simpa using h

/-- Blocks with an empty line between neighbours are told apart, if none of them has an empty line
of its own. -/
lemma blocks_of_splitLines {t : Text} {parts : List (List Text)}
    (ht : splitLines t = List.intercalate [[]] parts) (h : ∀ b ∈ parts, b ≠ [] ∧ [] ∉ b) :
    blocks t = parts := by
  rw [blocks, ht]
  cases parts with
  | nil => rfl
  | cons b parts =>
    have hsplit := List.splitOn_intercalate [] (fun b hb => (h b hb).2) (List.cons_ne_nil b parts)
    have hne : List.intercalate [[]] (b :: parts) ≠ [] := by
      obtain ⟨hb, _⟩ := h b List.mem_cons_self
      cases parts <;> simp [hb]
    rw [hsplit, if_neg (by simpa using hne)]

/-- **A report in text keeps its lines.** No text of an element holds a line break, every element
takes one line that is not empty, and the lines of the report are the blocks, a path and the lines
of its elements, with one empty line between neighbours. So the blocks are read back from the text.

**Proof sketch.** The texts of elements are lines (`Profile.isLine_texts_elements`), so that every
line of a block is one line, and cutting the report into lines gives the lines that it was made of.
A path is not empty and neither is the line of an element, so that the empty lines are those between
the blocks. -/
theorem text_keeps_lines {sources : List Source}
    (h : ∀ s ∈ sources, s.path ≠ [] ∧ IsLine s.path) :
    (∀ s ∈ sources, ∀ e ∈ s.outline.elements, (∀ t ∈ e.texts, IsLine t) ∧ line e ≠ []) ∧
    splitLines (text (sources.map Source.outline)) =
      List.intercalate [[]] (sources.map fun s => s.path :: s.outline.elements.map line) ∧
    blocks (text (sources.map Source.outline)) =
      sources.map fun s => s.path :: s.outline.elements.map line := by
  have htexts : ∀ s ∈ sources, ∀ e ∈ s.outline.elements, ∀ t ∈ e.texts, IsLine t :=
    fun s _ => s.profile.isLine_texts_elements isLine_of_mem_splitLines
  have hlines : ∀ o ∈ sources.map Source.outline, ∀ l ∈ lines o, IsLine l := by
    intro o ho
    obtain ⟨s, hs, rfl⟩ := List.mem_map.mp ho
    refine List.forall_mem_cons.mpr ⟨(h s hs).2, fun l hl => ?_⟩
    obtain ⟨e, he, rfl⟩ := List.mem_map.mp hl
    exact isLine_line (htexts s hs e he)
  have hsplit := splitLines_text hlines
  rw [List.map_map] at hsplit
  have hempty : ∀ s ∈ sources, [] ∉ s.path :: s.outline.elements.map line := by
    intro s hs
    rw [List.mem_cons, List.mem_map, not_or]
    refine ⟨(h s hs).1.symm, ?_⟩
    rintro ⟨e, _, he⟩
    exact line_ne_nil e he
  refine ⟨fun s hs e he => ⟨htexts s hs e he, line_ne_nil e⟩, hsplit, ?_⟩
  apply blocks_of_splitLines hsplit
  intro b hb
  obtain ⟨s, hs, rfl⟩ := List.mem_map.mp hb
  exact ⟨List.cons_ne_nil _ _, hempty s hs⟩

/-- A text of Rust whose lines end in three ways, and a text of Python that declares nothing. -/
def sample : List Source :=
  [⟨Language.rust, "a.rs", "/// One.\r\n/// Two.\u2028pub fn area() \x7b\x0cfn f()"⟩,
    ⟨Language.python, "b.py", "x\n"⟩]

/-- The two blocks of the sample are read back from its report. -/
theorem text_keeps_lines_sample :
    (∀ s ∈ sample, s.path ≠ [] ∧ IsLine s.path) ∧
    blocks (text (sample.map Source.outline)) =
      ([["a.rs", "[public] function area() – One. Two.", "[private] function f()"],
        ["b.py"]] : List (List Text)) := by
  have hpaths : ∀ s ∈ sample, s.path ≠ [] ∧ IsLine s.path := by
    decide +kernel
  refine ⟨hpaths, ?_⟩
  rw [(text_keeps_lines hpaths).2.2]
  decide +kernel

end DeclIndex.Report
