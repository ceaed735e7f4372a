import DeclIndex.Proofs.Comment.Bare
import DeclIndex.Proofs.Comment.Below
import DeclIndex.Proofs.Path

/-!
# Comments on one line

Every line of a comment is stripped on its own, and then the texts are joined with single spaces. A
marker without a space that begins the whole begins its first text, and one that ends the whole ends
its last text. So joining bare texts gives a bare text: a comment is as clean as its lines, and
stripping it once more changes nothing.

With a space in a marker this fails, since joining can then put a marker together.

## Main results

* `Comment.isBare_joinWith` — bare texts are joined to a bare text.
* `Comment.isBare_aboveAt`, `Comment.isBare_below` — comments are bare.
* `Comment.strip_comment_eq_self` — stripping a comment once more changes nothing.
-/

namespace DeclIndex.Comment

open Text

/-! ## Beginnings and ends around a space -/

/-- What begins a text and holds no space ends before the first space. -/
lemma prefix_of_prefix_append_space {m s t : Text} (hspace : ' ' ∉ m) (h : m <+: s ++ ' ' :: t) :
    m <+: s := by
  rcases List.prefix_or_prefix_of_prefix h (List.prefix_append s _) with hm | ⟨u, rfl⟩
  · exact hm
  · cases u with
    | nil => rw [List.append_nil]
    | cons c u =>
      obtain ⟨rfl, -⟩ := List.cons_prefix_cons.mp ((List.prefix_append_right_inj s).mp h)
      exact absurd (List.mem_append_right s List.mem_cons_self) hspace

/-- What ends a text and holds no space begins after the last space. -/
lemma suffix_of_suffix_append_space {m s t : Text} (hspace : ' ' ∉ m) (h : m <:+ s ++ ' ' :: t) :
    m <:+ t := by
  have hreverse : m.reverse <+: t.reverse ++ ' ' :: s.reverse := by
    have := List.reverse_prefix.mpr h
    simpa using this
  exact List.reverse_prefix.mp
    (prefix_of_prefix_append_space (by rwa [List.mem_reverse]) hreverse)

variable {markers : List Text} (hempty : [] ∉ markers) (hspace : ∀ m ∈ markers, ' ' ∉ m)

/-! ## Joined texts -/

include hempty in
/-- The empty text is bare. -/
lemma isBare_nil : IsBare markers [] where
  trimmed := rfl
  no_opening _ hm h := hempty (List.prefix_nil.mp h ▸ hm)
  no_ending _ hm h := hempty (List.suffix_nil.mp h ▸ hm)

include hspace in
/-- A text between spaces is bare at its start if the first part is, and at its end if the last part
is. -/
lemma isBare_of_spaces {first last start rest t : Text} (hfirst : IsBare markers first)
    (hlast : IsBare markers last) (hne : first ≠ []) (hne' : last ≠ [])
    (hstart : t = first ++ ' ' :: rest) (hend : t = start ++ ' ' :: last) : IsBare markers t where
  trimmed := by
    refine trim_eq_self_iff.mpr ⟨?_, ?_⟩
    · rw [hstart, List.head?_append_of_ne_nil _ hne]
      exact (trim_eq_self_iff.mp hfirst.trimmed).1
    · rw [hend, List.append_cons, List.getLast?_append_of_ne_nil _ hne']
      exact (trim_eq_self_iff.mp hlast.trimmed).2
  no_opening m hm h :=
    hfirst.no_opening m hm (prefix_of_prefix_append_space (hspace m hm) (hstart ▸ h))
  no_ending m hm h :=
    hlast.no_ending m hm (suffix_of_suffix_append_space (hspace m hm) (hend ▸ h))

include hempty hspace

/-- **Bare texts are joined to a bare text**, if no marker holds a space. -/
lemma isBare_joinWith {parts : List Text} (hparts : ∀ t ∈ parts, t ≠ [] ∧ IsBare markers t) :
    IsBare markers (joinWith [' '] parts) := by
  cases parts with
  | nil => exact isBare_nil hempty
  | cons first parts =>
    obtain ⟨hne, hfirst⟩ := hparts first List.mem_cons_self
    rcases List.eq_nil_or_concat parts with rfl | ⟨inner, last, rfl⟩
    · rw [joinWith_singleton]
      exact hfirst
    · rw [List.concat_eq_append] at hparts ⊢
      obtain ⟨hne', hlast⟩ := hparts last (by simp)
      have hstart : joinWith [' '] (first :: (inner ++ [last])) =
          first ++ ' ' :: joinWith [' '] (inner ++ [last]) := by
        rw [joinWith_cons _ _ (by simp)]
        simp
      have hend : joinWith [' '] (first :: (inner ++ [last])) =
          joinWith [' '] (first :: inner) ++ ' ' :: last := by
        rw [← List.cons_append, joinWith_append _ (by simp) (by simp), joinWith_singleton]
        simp
      exact isBare_of_spaces hspace hfirst hlast hne hne' hstart hend

/-- Comment lines on one line are bare. -/
lemma isBare_oneLine (lines : List Text) : IsBare markers (oneLine markers lines) := by
  refine isBare_joinWith hempty hspace fun t ht => ?_
  obtain ⟨hmem, hne⟩ := List.mem_filter.mp ht
  obtain ⟨line, -, rfl⟩ := List.mem_map.mp hmem
  exact ⟨by simpa using hne, (isBare_strip hempty line).1⟩

/-! ## Comments -/

/-- The comment above a line is bare. -/
lemma isBare_aboveAt (lines : List Text) (index depth : Int) :
    IsBare markers (aboveAt markers lines index depth) := by
  rw [aboveAt_eq_oneLine]
  exact isBare_oneLine hempty hspace _

/-- A documentation string is bare, whatever the lines are that it is read from. -/
lemma isBare_below (depth : Nat) (lines : List Text) :
    IsBare markers (below markers depth lines) := by
  obtain ⟨blanks, covered, after, hparts⟩ := exists_parts markers depth lines
  rw [below_of_parts hparts]
  exact isBare_oneLine hempty hspace covered

/-- **Comments are clean.** If no marker is empty or holds a space, the comment above a line and the
documentation string below it begin and end neither with white space nor with a marker, and
stripping them of the markers once more changes nothing. The lines, the index and the depth may be
any; so may the lines that a documentation string is read from.

**Proof sketch.** Both are made of stripped lines that are not empty, joined with single spaces.
Stripped lines are bare (`isBare_strip`), a marker without a space does not reach over the first or
the last space (`isBare_joinWith`), and a bare text is left as it is. -/
theorem strip_comment_eq_self :
    (∀ lines index depth,
      IsBare markers (aboveAt markers lines index depth) ∧
        strip markers (aboveAt markers lines index depth) = aboveAt markers lines index depth) ∧
    (∀ lines index depth,
      IsBare markers (belowAt markers lines index depth) ∧
        strip markers (belowAt markers lines index depth) = belowAt markers lines index depth) ∧
    ∀ lines depth,
      IsBare markers (below markers depth lines) ∧
        strip markers (below markers depth lines) = below markers depth lines := by
  have habove := isBare_aboveAt hempty hspace
  have hbelow := isBare_below hempty hspace
  exact ⟨fun lines index depth => ⟨habove lines index depth, (habove lines index depth).strip_eq⟩,
    fun lines index depth => ⟨hbelow _ _, (hbelow _ _).strip_eq⟩,
    fun lines depth => ⟨hbelow depth lines, (hbelow depth lines).strip_eq⟩⟩

omit hempty hspace

/-- Markers that overlap at both ends of the lines, above and below a declaration. -/
theorem strip_comment_eq_self_of_overlapping_markers :
    [] ∉ defaultMarkers ∧ (∀ m ∈ defaultMarkers, ' ' ∉ m) ∧
      aboveAt defaultMarkers ["/*** Adds", " **/", " * // two */ */", "f"] 3 5 = "Adds two" ∧
      strip defaultMarkers "Adds two" = "Adds two" ∧
      belowAt defaultMarkers ["f", "", "'''/ # a", "/* b ''' c", "d"] 0 9 = "/ # a b ''' c" ∧
      strip defaultMarkers "/ # a b ''' c" = "/ # a b ''' c" := by
  have hempty : [] ∉ defaultMarkers := by decide
  have hspace : ∀ m ∈ defaultMarkers, ' ' ∉ m := by decide
  obtain ⟨habove, hbelow, -⟩ := strip_comment_eq_self hempty hspace
  have hfirst :
      aboveAt defaultMarkers ["/*** Adds", " **/", " * // two */ */", "f"] 3 5 = "Adds two" := by
    decide
  have hsecond : belowAt defaultMarkers ["f", "", "'''/ # a", "/* b ''' c", "d"] 0 9 =
      "/ # a b ''' c" := by
    decide
  exact ⟨hempty, hspace, hfirst, hfirst ▸ (habove _ 3 5).2, hsecond, hsecond ▸ (hbelow _ 0 9).2⟩

/-- A marker with a space can come about by joining. -/
example : aboveAt ["#", "a b"] ["# a", "# b", "f"] 2 5 = "a b" ∧ strip ["#", "a b"] "a b" = [] := by
  decide

end DeclIndex.Comment
