import DeclIndex.Language.Rust
import DeclIndex.Proofs.Profile.Site
import DeclIndex.Proofs.Text.Lower
import DeclIndex.Proofs.Text.Trim

/-!
# Where elements stand

An element is anchored in its line. The line holds code, the name of the element is a piece of that
code, and no line has two elements, so that the elements of a text stand in the order of their
lines.

## Main definitions

* `Profile.StandsOn` — an element that a line can declare.

## Main results

* `Profile.standsOn_of_classify?` — an element stands on the line that declares it.
* `Profile.outline_standsOn` — the elements of a text stand on its lines, in order.
-/

namespace DeclIndex.Profile

open Text

variable {p : Profile}

/-! ## Texts of groups -/

/-- The text of a group is a piece of the text that was matched. -/
lemma groupText_isInfix (pattern : Pattern) (found : Pattern.Found) (line group : Text) :
    groupText pattern found line group <:+: line := by
  have hslice : (pattern.textOf? found line group).getD [] <:+: line := by
    rw [Pattern.textOf?]
    cases pattern.spanOf? found group with
    | none => exact List.nil_infix
    | some span => exact (List.take_prefix _ _).isInfix.trans (List.drop_suffix _ _).isInfix
  exact (trim_isInfix _).trans hslice

/-- The text of a group is trimmed. -/
lemma trim_groupText (pattern : Pattern) (found : Pattern.Found) (line group : Text) :
    trim (groupText pattern found line group) = groupText pattern found line group :=
  trim_trim _

/-! ## Words and kinds -/

/-- Only the empty word is spelled as the empty word. -/
lemma spelling_eq_nil_iff {word : Text} : p.spelling word = [] ↔ word = [] := by
  unfold spelling
  split
  · exact lower_eq_nil_iff
  · exact Iff.rfl

/-- Where indentation tells methods from functions, the line of a function is not indented. -/
lemma isIndented_of_kindOf {k : Kind} {line receiver : Text}
    (hkind : p.kindOf k line receiver = .function) (hindent : p.methodDetection = .indent) :
    isIndented line = false := by
  unfold kindOf at hkind
  split at hkind
  · exact absurd hkind (by decide)
  · rename_i hnot
    by_contra hline
    exact hnot (by simp [hkind, hindent, hline])

/-! ## Elements on their lines -/

/-- An element stands on a line: the line is neither blank nor a comment, without attributes it
still holds code that is no control flow, and the name of the element is a trimmed piece of that
code that is not empty. A name without an introducing word is no statement word. Where indentation
counts, a function does not stand on an indented line. -/
structure StandsOn (p : Profile) (line : Text) (e : Element) : Prop where
  not_blank : trim line ≠ []
  not_comment : Comment.isComment p.commentMarkers (trim line) = false
  not_attributes : p.stripAttributes (trim line) ≠ []
  not_control : p.isControlFlow (p.stripAttributes (trim line)) = false
  name_ne_nil : e.name ≠ []
  trim_name : trim e.name = e.name
  name_isInfix : e.name <:+: p.stripAttributes (trim line)
  not_statement : e.keyword = [] → p.isStatementWord e.name = false
  not_indented : e.kind = .function → p.methodDetection = .indent → isIndented line = false

/-- **An element stands on the line that declares it.**

**Proof sketch.** The element comes from a match in the code of the line, which says what the code
is not. The name is the text of a group of that match. The introducing word is empty only if the
match has none, and then the name was compared with the statement words. -/
lemma standsOn_of_classify? {site : Site} {e : Element} (h : p.classify? site = some e) :
    p.StandsOn site.line e := by
  obtain ⟨code, hcode, rule, _, found, _, helement⟩ := exists_of_classify? h
  obtain ⟨hnoCode, rfl, hne, hcontrol⟩ := code?_eq_some hcode
  simp only [isNoCode, Bool.or_eq_false_iff, List.isEmpty_eq_false_iff] at hnoCode
  have hdeclares := declares_of_elementOf? helement
  obtain ⟨word, hword, _, hstatement⟩ := hdeclares.keyword
  refine ⟨hnoCode.1, hnoCode.2, hne, hcontrol, hdeclares.name_ne_nil, ?_, ?_, ?_, ?_⟩
  · rw [hdeclares.name]
    exact trim_groupText _ _ _ _
  · rw [hdeclares.name]
    exact groupText_isInfix _ _ _ _
  · intro hempty
    rw [hword, spelling_eq_nil_iff] at hempty
    exact hstatement hempty
  · intro hkind hindent
    rw [hdeclares.kind] at hkind
    exact isIndented_of_kindOf hkind hindent

/-! ## Elements in order -/

/-- The elements of a text stand in the order of their lines, no two on one line. -/
lemma pairwise_line_elements (p : Profile) (lines : List Text) :
    (p.elements lines).Pairwise fun e f => e.line < f.line := by
  rw [elements_eq_filterMap_range, List.pairwise_filterMap]
  refine List.pairwise_lt_range.imp fun {i j} hij e he f hf => ?_
  rw [line_of_elementAt? he, line_of_elementAt? hf]
  omega

/-- **The elements of a text stand on its lines**, in order: the numbers of their lines increase
strictly from one up to the number of lines at most, and each element stands on the line with its
number.

**Proof sketch.** The elements are what the indices of the lines yield, in order, and an element has
the number of its line. That line declares it (`Profile.standsOn_of_classify?`). -/
theorem outline_standsOn (p : Profile) (path content : Text) :
    ((p.outline path content).elements.map (·.line)).Pairwise (· < ·) ∧
    ∀ e ∈ (p.outline path content).elements,
      1 ≤ e.line ∧ e.line ≤ (splitLines content).length ∧
        ∃ line, (splitLines content)[(e.line - 1).toNat]? = some line ∧ p.StandsOn line e := by
  refine ⟨List.pairwise_map.mpr (pairwise_line_elements p _), fun e he => ?_⟩
  obtain ⟨i, hi⟩ := mem_elements_iff.mp he
  have hnumber := line_of_elementAt? hi
  obtain ⟨before, line, after, hlines, rfl, hsite⟩ := exists_site_of_elementAt? hi
  rw [hlines, List.length_append, List.length_cons]
  refine ⟨by omega, by omega, line, ?_, standsOn_of_classify? hsite⟩
  rw [hnumber, show (((before.length : Int) + 1 - 1).toNat) = before.length by omega]
  simp

/-- A function of Rust behind an attribute, below a comment and a control line: the name is a piece
of the code, and the line is not indented. -/
theorem outline_standsOn_rust :
    { kind := .function, name := "area", visibility := .pub, line := 3, keyword := "fn" } ∈
      (Language.rust.outline "a.rs" "// One.\nif x \x7b\n#[inline] pub fn area() \x7b").elements ∧
    ∃ line, (splitLines "// One.\nif x \x7b\n#[inline] pub fn area() \x7b")[2]? = some line ∧
      Language.rust.StandsOn line
        { kind := .function, name := "area", visibility := .pub, line := 3, keyword := "fn" } := by
  have hmem : (⟨.function, "area", .pub, [], [], 3, "fn"⟩ : Element) ∈
      (Language.rust.outline "a.rs"
        "// One.\nif x \x7b\n#[inline] pub fn area() \x7b").elements := by
    decide +kernel
  obtain ⟨_, _, hline⟩ := (outline_standsOn _ _ _).2 _ hmem
  exact ⟨hmem, hline⟩

end DeclIndex.Profile
