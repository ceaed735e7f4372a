import DeclIndex.Proofs.Extension
import DeclIndex.Proofs.Profile.EntryOutcome
import DeclIndex.Proofs.Registry

/-!
# Languages of entries that are of use

The marker of documentation of an entry must not be empty, but nothing is asked of its comment
markers and its extensions. With an empty comment marker every line is a comment, so that the
language declares nothing. An extension of which nothing, or nothing but the dot, is left in normal
form is accepted too; no file has the first.

## Main definitions

* `Entry.HoldsEmpty` — a field of an entry holds the empty text.

## Main results

* `Entry.nil_mem_commentMarkers_iff`, `Entry.nil_mem_docMarkers_iff` — where an empty marker comes
  from.
* `Registry.ofSuffix?_register` — the files that a registration concerns.
* `Entry.usable_of_profile` — which entries describe languages of use.
-/

namespace DeclIndex

/-! ## Files of a profile -/

/-- **The files that a registration concerns** are those with a suffix that the profile has. -/
lemma Registry.ofSuffix?_register (r : Registry) (p : Profile) (suffix : Text) :
    (r.register p).ofSuffix? suffix =
      if suffix ≠ [] ∧ p.hasExtension (Extension.normalize suffix) then some p
      else r.ofSuffix? suffix := by
  unfold ofSuffix?
  by_cases hsuffix : suffix = []
  · rw [if_pos (List.isEmpty_iff.mpr hsuffix), if_neg (fun h => h.1 hsuffix),
      if_pos (List.isEmpty_iff.mpr hsuffix)]
  · have hempty : ¬suffix.isEmpty = true := fun h => hsuffix (List.isEmpty_iff.mp h)
    rw [if_neg hempty, if_neg hempty, ofExtension?_register]
    simp only [ne_eq, hsuffix, not_false_eq_true, true_and]

/-- The normal form of an extension has a character after its dot unless nothing, or nothing but the
dot, is left of the extension. -/
lemma Extension.exists_normalize_eq_iff {e : Text} :
    (∃ c rest, normalize e = '.' :: c :: rest) ↔ Text.trim e ≠ [] ∧ Text.trim e ≠ ['.'] := by
  rw [ne_eq, ne_eq, ← normalize_eq_nil_iff, ← normalize_eq_dot_iff]
  have hdot : normalize e = [] ∨ ∃ rest, normalize e = '.' :: rest := by
    unfold normalize
    split
    · exact .inl rfl
    · split
      · rename_i hc
        exact .inr ⟨_, by rw [hc]⟩
      · exact .inr ⟨_, rfl⟩
  rcases hdot with h | ⟨rest, h⟩
  · simp [h]
  · cases rest <;> simp [h]

namespace Entry

variable {entry : Value} {parts : Parts}

/-! ## Empty markers -/

/-- A field of an entry holds the empty text, alone or among others. -/
def HoldsEmpty (entry : Value) (key : Text) : Prop :=
  ∃ v ts, entry.field? key = some v ∧ HoldsTexts v ts ∧ [] ∈ ts

/-- A field that is read holds the empty text if it is among the texts that are read. -/
lemma holdsEmpty_iff {language key : Text} {ts : List Text}
    (h : texts entry language key = .ok ts) : HoldsEmpty entry key ↔ [] ∈ ts := by
  constructor
  · rintro ⟨v, ts', hv, hholds, hnil⟩
    have hread : texts entry language key = .ok ts' := texts_eq_ok_iff.mpr (.inr ⟨v, hv, hholds⟩)
    rw [h] at hread
    cases hread
    exact hnil
  · intro hnil
    rcases texts_eq_ok_iff.mp h with ⟨-, rfl⟩ | ⟨v, hv, hholds⟩
    · cases hnil
    · exact ⟨v, ts, hv, hholds, hnil⟩

/-- The extensions of the profile of an entry are in normal form. -/
lemma hasExtension_profile_iff {e : Text} :
    parts.profile.hasExtension e = true ↔ e ∈ parts.profile.extensions := by
  have hnormal : parts.profile.extensions.map Extension.normalize = parts.profile.extensions := by
    rw [Parts.profile, List.map_map]
    exact List.map_congr_left fun e _ => Extension.normalize_normalize e
  rw [Profile.hasExtension, hnormal, List.contains_iff_mem]

section

variable [Host]

/-- **An empty comment marker** is one that the entry holds. -/
lemma nil_mem_commentMarkers_iff (h : HasParts entry parts) :
    [] ∈ parts.commentMarkers ↔ HoldsEmpty entry "comment_markers" := by
  rw [holdsEmpty_iff h.comments, Parts.commentMarkers]
  split
  · rename_i hnone
    rw [List.isEmpty_iff.mp hnone]
    simpa using h.marker_ne_nil
  · rfl

/-- **An empty marker of documentation** is an empty comment marker. -/
lemma nil_mem_docMarkers_iff (h : HasParts entry parts) :
    [] ∈ parts.profile.docMarkers ↔ HoldsEmpty entry "comment_markers" := by
  rw [← nil_mem_commentMarkers_iff h, Parts.profile, mem_distinct, List.mem_cons]
  simp [h.marker_ne_nil.symm]

/-! ## Extensions -/

/-- The profile of an entry has the extensions that the entry holds, in normal form. -/
lemma exists_extensions (h : HasParts entry parts) :
    ∃ v, entry.field? "extensions" = some v ∧ HoldsTexts v parts.extensions := by
  rcases texts_eq_ok_iff.mp h.extensions with ⟨-, hnil⟩ | hholds
  · exact absurd hnil h.extensions_ne_nil
  · exact hholds

/-! ## Languages of use -/

/-- **Which entries describe languages of use.** The profile of an entry has an empty marker exactly
if the entry has an empty comment marker, and then it declares nothing. It has an extension that is
not a dot with something after it exactly if the entry has one of which nothing, or nothing but the
dot, is left without white space. It is found for the name of some file if one of its extensions is
a dot with neither dot nor slash after it; otherwise its registration changes nothing for any file.

**Proof sketch.** The texts of the fields are passed on unchecked, the extensions in normal form.
The normal forms of the suffixes of files are known (`Extension.exists_suffix_iff`), and a
registration concerns the files with these suffixes alone (`Registry.ofSuffix?_register`). -/
theorem usable_of_profile {p : Profile} (h : profile entry = .ok p) :
    (([] ∈ p.commentMarkers ↔ HoldsEmpty entry "comment_markers") ∧
      ([] ∈ p.docMarkers ↔ HoldsEmpty entry "comment_markers") ∧
      (HoldsEmpty entry "comment_markers" → ∀ lines, p.elements lines = [])) ∧
    (∃ v ts, entry.field? "extensions" = some v ∧ HoldsTexts v ts ∧
      p.extensions = ts.map Extension.normalize ∧
      ∀ e ∈ ts, (∃ c rest, Extension.normalize e = '.' :: c :: rest) ↔
        Text.trim e ≠ [] ∧ Text.trim e ≠ ['.']) ∧
    ((∃ e ∈ p.extensions, Extension.IsEnding e) → ∀ r : Registry, ∃ file,
      (r.register p).ofSuffix? (Path.ofText file).suffix = some p) ∧
    ((¬∃ e ∈ p.extensions, Extension.IsEnding e) → ∀ (r : Registry) (file : Text),
      (r.register p).ofSuffix? (Path.ofText file).suffix =
        r.ofSuffix? (Path.ofText file).suffix) := by
  obtain ⟨parts, hparts, rfl⟩ := profile_eq_ok_iff.mp h
  have hcomment := nil_mem_commentMarkers_iff hparts
  have hnormal : ∀ e ∈ parts.profile.extensions, Extension.normalize e = e := by
    intro e he
    obtain ⟨written, -, rfl⟩ := List.mem_map.mp he
    exact Extension.normalize_normalize written
  refine ⟨⟨hcomment, nil_mem_docMarkers_iff hparts, ?_⟩, ?_, ?_, ?_⟩
  · intro hempty lines
    refine List.filterMap_eq_nil_iff.mpr fun site _ => ?_
    exact Profile.classify?_of_empty_marker (hcomment.mpr hempty) site
  · obtain ⟨v, hv, hholds⟩ := exists_extensions hparts
    exact ⟨v, _, hv, hholds, rfl, fun e _ => Extension.exists_normalize_eq_iff⟩
  · rintro ⟨e, he, hending⟩ r
    obtain ⟨file, hsuffix, heq⟩ := (Extension.exists_suffix_iff (hnormal e he)).mpr hending
    refine ⟨file, ?_⟩
    rw [Registry.ofSuffix?_register, heq, if_pos ⟨hsuffix, hasExtension_profile_iff.mpr he⟩]
  · intro hnone r file
    rw [Registry.ofSuffix?_register, if_neg]
    rintro ⟨hsuffix, hhas⟩
    exact hnone ⟨_, hasExtension_profile_iff.mp hhas, (Extension.isEnding_suffix hsuffix).normalize⟩

end

/-- An entry with an empty comment marker, an empty extension and a mere dot for an extension. -/
def withBlankTexts : Value :=
  .record [
    ("name", .ofString "toy"),
    ("extensions", .list [.ofString "", .ofString "."]),
    ("function", .ofString "^fn\\s+(\\w+)"),
    ("comment_markers", .ofString "")]

/-- The entry is accepted. Its language declares nothing, but it is found for a file, by the mere
dot. -/
theorem usable_of_profile_of_blank_texts :
    let _ : Host := .bare
    ∃ p, profile withBlankTexts = .ok p ∧ [] ∈ p.commentMarkers ∧ [] ∈ p.docMarkers ∧
      (∀ lines, p.elements lines = []) ∧
      ∃ file, (Registry.builtin.register p).ofSuffix? (Path.ofText file).suffix = some p := by
  intro host
  have hextensions : (profile withBlankTexts).toOption.any
      fun p => p.extensions.contains ['.'] := by decide +kernel
  cases h : profile withBlankTexts with
  | error f =>
    rw [h] at hextensions
    cases hextensions
  | ok p =>
    rw [h] at hextensions
    have hdot : ['.'] ∈ p.extensions := List.contains_iff_mem.mp hextensions
    have hempty : HoldsEmpty withBlankTexts "comment_markers" :=
      ⟨.text [], [[]], rfl, .one [], List.mem_cons_self⟩
    obtain ⟨⟨hcomment, hdoc, hnothing⟩, -, hfound, -⟩ := usable_of_profile h
    exact ⟨p, rfl, hcomment.mpr hempty, hdoc.mpr hempty, hnothing hempty,
      hfound ⟨['.'], hdot, [], rfl, by decide, by decide⟩ Registry.builtin⟩

/-- Neither are all markers of accepted entries non-empty, nor have all their extensions something
after the dot. -/
theorem not_usable_of_blank_texts :
    let _ : Host := .bare
    (¬∀ (entry : Value) (p : Profile), profile entry = .ok p →
      (∀ m ∈ p.commentMarkers, m ≠ []) ∧ ∀ m ∈ p.docMarkers, m ≠ []) ∧
    ¬∀ (entry : Value) (p : Profile), profile entry = .ok p →
      ∀ e ∈ p.extensions, ∃ c rest, e = '.' :: c :: rest := by
  intro host
  have hblank : (profile withBlankTexts).toOption.any fun p =>
      p.commentMarkers.contains [] && p.extensions.contains [] := by
    decide +kernel
  cases h : profile withBlankTexts with
  | error f =>
    rw [h] at hblank
    cases hblank
  | ok p =>
    rw [h, Except.toOption, Option.any_some, Bool.and_eq_true, List.contains_iff_mem,
      List.contains_iff_mem] at hblank
    refine ⟨fun hall => (hall _ p h).1 [] hblank.1 rfl, fun hall => ?_⟩
    obtain ⟨c, rest, hnil⟩ := hall _ p h [] hblank.2
    cases hnil

end Entry

end DeclIndex
