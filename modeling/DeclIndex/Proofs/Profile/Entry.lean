import DeclIndex.Profile.Entry
import DeclIndex.Proofs.Fallible
import DeclIndex.Proofs.Profile.Halting

/-!
# Profiles of entries

An entry that describes a language does so by its parts: the fields that are read, none of which has
a fault. The profile is put together from these, so what holds of each field holds of the profile.

## Main definitions

* `Entry.Parts` — the fields of an entry, with `Entry.Parts.profile`.
* `Entry.HasParts` — an entry has some parts.

## Main results

* `Entry.profile_eq_ok_iff` — the profiles that entries describe.
* `Entry.gives_outline_of_profile` — the profile of an entry comes to an end on every text.
-/

namespace DeclIndex.Entry

/-! ## Parts -/

/-- The fields of an entry. -/
structure Parts where
  language : Text
  extensions : List Text
  rules : List Rule
  marker : Text
  placement : Placement
  detection : MethodDetection
  comments : List Text
  control : List Text

/-- The comment markers: without any of its own a language has the marker of documentation. -/
def Parts.commentMarkers (parts : Parts) : List Text :=
  if parts.comments.isEmpty then [parts.marker] else parts.comments

/-- The profile with some parts. -/
def Parts.profile (parts : Parts) : Profile where
  name := parts.language
  extensions := parts.extensions.map Extension.normalize
  rules := parts.rules
  commentMarkers := parts.commentMarkers
  docMarkers := distinct (parts.marker :: parts.commentMarkers)
  controlWords := if parts.control.isEmpty then commonControlWords else distinct parts.control
  methodDetection := parts.detection
  docPlacement := parts.placement

section

variable [Host]

/-- An entry has some parts, and nothing is wrong with any of them. -/
structure HasParts (entry : Value) (parts : Parts) : Prop where
  language : name entry = .ok parts.language
  extensions : texts entry parts.language "extensions" = .ok parts.extensions
  extensions_ne_nil : parts.extensions ≠ []
  rules : rules entry parts.language ruleKinds = .ok parts.rules
  rules_ne_nil : parts.rules ≠ []
  marker : docMarker entry parts.language = .ok parts.marker
  placement : placement entry parts.language = .ok parts.placement
  detection : detection entry parts.language = .ok parts.detection
  comments : texts entry parts.language "comment_markers" = .ok parts.comments
  control : texts entry parts.language "control_keywords" = .ok parts.control

/-- The profiles that entries describe are put together from their parts. -/
lemma profile_eq_ok_iff {entry : Value} {p : Profile} :
    profile entry = .ok p ↔ ∃ parts, HasParts entry parts ∧ p = parts.profile := by
  simp only [profile, bind_eq_ok_iff, check_eq_ok_iff, List.isEmpty_eq_false_iff]
  constructor
  · rintro ⟨language, hlanguage, extensions, hextensions, hsome, rules, hrules, hrule, marker,
      hmarker, placement, hplacement, detection, hdetection, comments, hcomments, control, hcontrol,
      hp⟩
    cases hp
    exact ⟨⟨language, extensions, rules, marker, placement, detection, comments, control⟩,
      ⟨hlanguage, hextensions, hsome, hrules, hrule, hmarker, hplacement, hdetection, hcomments,
        hcontrol⟩, rfl⟩
  · rintro ⟨parts, h, rfl⟩
    exact ⟨_, h.language, _, h.extensions, h.extensions_ne_nil, _, h.rules, h.rules_ne_nil, _,
      h.marker, _, h.placement, _, h.detection, _, h.comments, _, h.control, rfl⟩

/-- The marker of documentation is not empty. -/
lemma HasParts.marker_ne_nil {entry : Value} {parts : Parts} (h : HasParts entry parts) :
    parts.marker ≠ [] := by
  have hmarker := h.marker
  unfold docMarker at hmarker
  split at hmarker
  · rw [← Except.ok.inj hmarker]
    exact List.cons_ne_nil _ _
  · cases hmarker

/-! ## Outlines come to an end -/

/-- **The profile of an entry comes to an end on every text**, and never strips an empty marker from
a line with any text.

**Proof sketch.** A loop that strips markers goes on for ever only on a text with an empty marker
(`Profile.gives_outline`). The marker of documentation of an entry is not empty
(`HasParts.marker_ne_nil`), so that an empty one is a comment marker. Then every line is a comment,
and no markers are stripped but from lines without any text. -/
theorem gives_outline_of_profile {entry : Value} {p : Profile} (h : profile entry = .ok p)
    (path content : Text) :
    (p.outlineRun path content).result = Part.some (p.outline path content) ∧
      ∀ job ∈ (p.outlineRun path content).stripped, Text.trim job.2 ≠ [] → [] ∉ job.1 := by
  obtain ⟨parts, hparts, rfl⟩ := profile_eq_ok_iff.mp h
  have hmarkers : [] ∈ parts.profile.docMarkers → [] ∈ parts.profile.commentMarkers := by
    intro hempty
    rcases List.mem_cons.mp ((mem_distinct _ _).mp hempty) with hmarker | hcomment
    · exact absurd hmarker.symm hparts.marker_ne_nil
    · exact hcomment
  obtain ⟨hresult, hstripped⟩ := Profile.gives_outline hmarkers path content
  exact ⟨hresult, hstripped⟩

end

/-- An entry with an empty comment marker and documentation strings below its declarations. -/
def withEmptyMarker : Value :=
  .record [
    ("name", .ofString "toy"),
    ("extensions", .ofString ".toy"),
    ("function", .ofString "^fn\\s+(\\w+)"),
    ("doc_placement", .ofString "after"),
    ("comment_markers", .list [.ofString "", .ofString "#"])]

/-- An entry with an empty comment marker comes to an end on a documented function. -/
theorem gives_outline_of_empty_marker :
    let _ : Host := .bare
    ∃ p, profile withEmptyMarker = .ok p ∧ [] ∈ p.docMarkers ∧
      (p.outlineRun "a.toy" "fn add\n  // sum").result =
        Part.some (p.outline "a.toy" "fn add\n  // sum") := by
  intro host
  have hmarker : (profile withEmptyMarker).toOption.any fun p => p.docMarkers.contains [] := by
    decide +kernel
  cases hp : profile withEmptyMarker with
  | error fault =>
    rw [hp] at hmarker
    cases hmarker
  | ok p =>
    rw [hp] at hmarker
    exact ⟨p, rfl, List.contains_iff_mem.mp hmarker,
      (gives_outline_of_profile hp "a.toy" "fn add\n  // sum").1⟩

end DeclIndex.Entry
