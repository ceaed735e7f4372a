import DeclIndex.Proofs.Comment.Piece
import DeclIndex.Proofs.Profile.Anchor
import DeclIndex.Proofs.Profile.Attributes
import DeclIndex.Proofs.Profile.Barrier
import DeclIndex.Proofs.Text.Lines

/-!
# Elements on one line

No text of an element holds a line break. The name, the supertype and the introducing word are
pieces of a line, the word perhaps in lower case, and the documentation is joined of pieces of lines
by spaces. The words for the kind and the visibility are fixed.

## Main definitions

* `Element.texts` — all texts of an element.

## Main results

* `Profile.isLine_documentation` — the documentation of a declaration is a line.
* `Profile.isLine_texts_of_classify?` — the texts of what a line declares are lines.
* `Profile.isLine_texts_elements` — the texts of the elements of a text are lines.
-/

namespace DeclIndex

open Text

/-- All texts of an element. -/
def Element.texts (e : Element) : List Text :=
  [e.kind.word, e.name, e.visibility.word, e.parent, e.documentation, e.keyword]

namespace Profile

variable {p : Profile} {site : Site}

/-! ## Comments -/

/-- Pieces of lines joined by spaces are a line. -/
private lemma isLine_joinWith_of_pieces {lines texts : List Text} (h : ∀ l ∈ lines, IsLine l)
    (htexts : ∀ t ∈ texts, ∃ l ∈ lines, t <:+: l) : IsLine (joinWith [' '] texts) := by
  refine IsLine.joinWith (by decide) fun t ht => ?_
  obtain ⟨l, hl, hpiece⟩ := htexts t ht
  exact (h l hl).isInfix hpiece

/-- A comment above a declaration is a line. -/
lemma isLine_above (markers : List Text) (depth : Nat) {above : List Text}
    (h : ∀ l ∈ above, IsLine l) : IsLine (Comment.above markers depth above) :=
  isLine_joinWith_of_pieces h fun _ ht => Comment.exists_of_mem_linesAbove ht

/-- A documentation string below a declaration is a line. -/
lemma isLine_below (markers : List Text) (depth : Nat) {below : List Text}
    (h : ∀ l ∈ below, IsLine l) : IsLine (Comment.below markers depth below) := by
  unfold Comment.below
  split
  · exact isLine_nil
  · rename_i first rest hlines
    refine isLine_joinWith_of_pieces h fun t ht => ?_
    obtain ⟨l, hl, hpiece⟩ := Comment.exists_of_mem_linesBelow ht
    rw [← hlines] at hl
    exact ⟨l, (List.dropWhile_sublist _).subset hl, hpiece⟩

/-- The lines above the attributes of a declaration are among the lines above it. -/
lemma aboveAttributes_subset (p : Profile) (above : List Text) :
    p.aboveAttributes above ⊆ above := by
  intro l hl
  rw [← List.map_id above, ← map_pastAttributes, List.map_id] at hl
  exact mem_of_mem_pastAttributes hl

/-- **The documentation of a declaration is a line.** -/
lemma isLine_documentation (p : Profile) (habove : ∀ l ∈ site.above, IsLine l)
    (hbelow : ∀ l ∈ site.below, IsLine l) (k : Kind) : IsLine (p.documentation site k) := by
  have hattributes : ∀ l ∈ p.aboveAttributes site.above, IsLine l :=
    fun l hl => habove l (p.aboveAttributes_subset _ hl)
  unfold documentation
  dsimp only
  split
  · exact isLine_above _ _ hattributes
  · split
    · exact isLine_above _ _ hattributes
    · exact isLine_below _ _ hbelow

/-! ## Code and groups -/

/-- The code of a line is a line. -/
lemma isLine_code {line code : Text} (h : p.code? line = some code) (hline : IsLine line) :
    IsLine code := by
  obtain ⟨_, rfl, _⟩ := code?_eq_some h
  exact hline.trim.isInfix (p.stripAttributes_isSuffix _).isInfix

/-- A confirmation is found in the rest of its line or in a trimmed line below. -/
lemma isLine_of_confirmation? {confirm : Pattern} {lookahead : Nat} {tail : Text}
    {below : List Text} {c : Pattern.Found × Text}
    (h : p.confirmation? confirm lookahead tail below = some c) (htail : IsLine tail)
    (hbelow : ∀ l ∈ below, IsLine l) : IsLine c.2 := by
  unfold confirmation? at h
  obtain ⟨t, hplace, hfound⟩ := Option.bind_eq_some_iff.mp h
  obtain ⟨_, _, rfl⟩ := Option.map_eq_some_iff.mp hfound
  split at hplace
  · obtain ⟨l, hl, rfl⟩ := List.mem_map.mp (List.mem_of_find?_eq_some hplace)
    exact (hbelow l (List.mem_of_mem_take hl)).trim
  · cases hplace
    exact htail

/-- A text that a match gives for a group is a line. -/
lemma isLine_of_isGiven {rule : Rule} {found : Pattern.Found} {code group t : Text}
    (h : p.IsGiven rule found site code group t) (hcode : IsLine code)
    (hbelow : ∀ l ∈ site.below, IsLine l) : IsLine t := by
  rcases h with rfl | ⟨confirm, c, _, hc, rfl⟩
  · exact hcode.isInfix (groupText_isInfix _ _ _ _)
  · have htail : IsLine (code.drop found.span.stop) := hcode.isInfix (List.drop_suffix _ _).isInfix
    exact (isLine_of_confirmation? hc htail hbelow).isInfix (groupText_isInfix _ _ _ _)

/-- The spelling of a line is a line. -/
lemma isLine_spelling (p : Profile) {word : Text} (h : IsLine word) : IsLine (p.spelling word) := by
  unfold spelling
  split
  · exact h.lower
  · exact h

/-! ## Elements -/

/-- **The texts of what a line declares are lines**, if the line and those around it are.

**Proof sketch.** The element comes from a match in the code of the line. Each text is a group of the
match or of the confirmation, its lower case, the documentation, or one of finitely many words. -/
theorem isLine_texts_of_classify? {e : Element} (h : p.classify? site = some e)
    (habove : ∀ l ∈ site.above, IsLine l) (hline : IsLine site.line)
    (hbelow : ∀ l ∈ site.below, IsLine l) : ∀ t ∈ e.texts, IsLine t := by
  obtain ⟨code, hcode, rule, _, found, _, helement⟩ := exists_of_classify? h
  have hcode := isLine_code hcode hline
  have hdeclares := declares_of_elementOf? helement
  have hkind : IsLine e.kind.word := by
    cases e.kind <;> decide
  have hname : IsLine e.name := by
    rw [hdeclares.name]
    exact hcode.isInfix (groupText_isInfix _ _ _ _)
  have hvisibility : IsLine e.visibility.word := by
    cases e.visibility <;> decide
  have hparent : IsLine e.parent := isLine_of_isGiven hdeclares.parent hcode hbelow
  have hdocumentation : IsLine e.documentation := by
    rw [hdeclares.documentation]
    exact p.isLine_documentation habove hbelow _
  have hkeyword : IsLine e.keyword := by
    obtain ⟨word, hword, hgiven, _⟩ := hdeclares.keyword
    rw [hword]
    exact p.isLine_spelling (isLine_of_isGiven hgiven hcode hbelow)
  intro t ht
  simp only [Element.texts, List.mem_cons, List.not_mem_nil, or_false] at ht
  rcases ht with rfl | rfl | rfl | rfl | rfl | rfl <;> assumption

/-- **The texts of the elements of a text are lines.** -/
theorem isLine_texts_elements (p : Profile) {lines : List Text} (h : ∀ l ∈ lines, IsLine l) :
    ∀ e ∈ p.elements lines, ∀ t ∈ e.texts, IsLine t := by
  intro e he
  obtain ⟨i, hi⟩ := mem_elements_iff.mp he
  obtain ⟨before, line, after, rfl, _, hsite⟩ := exists_site_of_elementAt? hi
  rw [List.forall_mem_append, List.forall_mem_cons] at h
  obtain ⟨hbefore, hline, hafter⟩ := h
  exact isLine_texts_of_classify? hsite (fun l hl => hbefore l (List.mem_reverse.mp hl)) hline hafter

end Profile

end DeclIndex
