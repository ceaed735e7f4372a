import DeclIndex.Comment
import DeclIndex.Proofs.Order
import Mathlib.Data.List.Infix

/-!
# The longest marker

Markers are sorted by their lengths alone, so that markers of one length come in any order. A search
for a marker at an end of a line never shows it: two markers of one length that stand at the same
end of a line are the same. What is found is the longest marker that stands there, and this depends
only on which markers there are.

## Main definitions

* `Comment.IsLongest` — the longest marker that passes a test.

## Main results

* `Comment.opening?_eq_some_iff`, `Comment.ending?_eq_some_iff` — the marker that is found at an end
  of a line is the longest one there.
-/

namespace DeclIndex.Comment

/-- The longest marker that passes a test. -/
structure IsLongest (markers : List Text) (test : Text → Prop) (m : Text) : Prop where
  mem : m ∈ markers
  passes : test m
  longest : ∀ n ∈ markers, test n → n.length ≤ m.length

variable {markers : List Text} {line m : Text}

/-! ## Sorted markers -/

/-- Sorting keeps the markers. -/
@[simp]
lemma mem_longestFirst : m ∈ longestFirst markers ↔ m ∈ markers :=
  mem_sortBy _ _ _

/-- The first of the sorted markers that passes a test is a longest that does. -/
lemma isLongest_of_find? {test : Text → Bool} (h : (longestFirst markers).find? test = some m) :
    IsLongest markers (fun n => test n = true) m where
  mem := mem_longestFirst.mp (List.mem_of_find?_eq_some h)
  passes := List.find?_some h
  longest _ hn hn' := length_le_of_find?_sortBy h hn hn'

/-- If no two markers of one length pass a test, the longest that does is found. -/
lemma find?_longestFirst_eq_some_iff {test : Text → Bool}
    (hsame : ∀ a b, test a = true → test b = true → a.length = b.length → a = b) :
    (longestFirst markers).find? test = some m ↔
      IsLongest markers (fun n => test n = true) m := by
  refine ⟨isLongest_of_find?, fun h => ?_⟩
  cases hfind : (longestFirst markers).find? test with
  | none => exact absurd h.passes (List.find?_eq_none.mp hfind m (mem_longestFirst.mpr h.mem))
  | some n =>
    have hn := isLongest_of_find? hfind
    have hlength : n.length = m.length :=
      le_antisymm (h.longest n hn.mem hn.passes) (hn.longest m h.mem h.passes)
    rw [hsame n m hn.passes h.passes hlength]

/-! ## Markers at the ends of a line -/

/-- **The marker that is found at the start of a line** is the longest one there. -/
lemma opening?_eq_some_iff :
    opening? markers line = some m ↔ IsLongest markers (fun n => n <+: line) m := by
  have hsame : ∀ a b : Text, line.startsWith a = true → line.startsWith b = true →
      a.length = b.length → a = b := by
    intro a b ha hb hlength
    have hprefix := List.prefix_of_prefix_length_le (List.isPrefixOf_iff_prefix.mp ha)
      (List.isPrefixOf_iff_prefix.mp hb) hlength.le
    exact hprefix.eq_of_length hlength
  rw [opening?, find?_longestFirst_eq_some_iff hsame]
  simp only [Text.startsWith, List.isPrefixOf_iff_prefix]

/-- No marker is found at the start of a line if none stands there. -/
lemma opening?_eq_none_iff : opening? markers line = none ↔ ∀ n ∈ markers, ¬ n <+: line := by
  simp only [opening?, List.find?_eq_none, mem_longestFirst, Text.startsWith,
    List.isPrefixOf_iff_prefix]

/-- **The marker that is found at the end of a line** is the longest one there. -/
lemma ending?_eq_some_iff :
    ending? markers line = some m ↔ IsLongest markers (fun n => n <:+ line) m := by
  have hsame : ∀ a b : Text, line.endsWith a = true → line.endsWith b = true →
      a.length = b.length → a = b := by
    intro a b ha hb hlength
    have hsuffix := List.suffix_of_suffix_length_le (List.isSuffixOf_iff_suffix.mp ha)
      (List.isSuffixOf_iff_suffix.mp hb) hlength.le
    exact hsuffix.eq_of_length hlength
  rw [ending?, find?_longestFirst_eq_some_iff hsame]
  simp only [Text.endsWith, List.isSuffixOf_iff_suffix]

/-- No marker is found at the end of a line if none stands there. -/
lemma ending?_eq_none_iff : ending? markers line = none ↔ ∀ n ∈ markers, ¬ n <:+ line := by
  simp only [ending?, List.find?_eq_none, mem_longestFirst, Text.endsWith,
    List.isSuffixOf_iff_suffix]

end DeclIndex.Comment
