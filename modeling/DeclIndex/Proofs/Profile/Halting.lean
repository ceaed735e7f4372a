import DeclIndex.Language.Builtin
import DeclIndex.Proofs.Comment.Halting
import DeclIndex.Proofs.Profile.Site

/-!
# Profiles that come to an end

Only the stripping of comments could go on for ever. It does so for an empty marker, but a profile
one of whose comment markers is empty takes every line for a comment, so that no line declares
anything and no comment is read. Hence a profile comes to an end on every text if it has no empty
marker for documentation without one for comments.

## Main definitions

* `Profile.outlineRun` — the run of `Profile.outline`, in which documentation is stripped by loops.

## Main results

* `Profile.classify?_of_empty_marker` — with an empty comment marker no line declares anything.
* `Profile.gives_outline` — the outline of a text is found.
* `Profile.gives_outline_of_builtin` — so it is in every built-in language.
-/

namespace DeclIndex.Profile

open Comment (Run)
open Comment.Run (Gives gives_pure gives_above gives_below)

variable {p : Profile}

/-! ## Runs -/

/-- The run of `Profile.documentation`. -/
def documentationRun (p : Profile) (site : Site) (k : Kind) : Run Text :=
  let depth := (p.docDepth k).toNat
  match p.docPlacement with
  | .before => Run.above p.docMarkers depth (p.aboveAttributes site.above)
  | .after => do
    let doc ← Run.below p.docMarkers depth site.below
    if doc.isEmpty then Run.above p.commentMarkers depth (p.aboveAttributes site.above)
    else return doc

/-- The run of `Profile.classify?`. Nothing but the documentation of an element is stripped. -/
def classifyRun (p : Profile) (site : Site) : Run (Option Element) :=
  match p.classify? site with
  | none => return none
  | some e => do
    let doc ← p.documentationRun site e.kind
    return some { e with documentation := doc }

/-- What some places declare, one after the other. -/
def elementsRun (p : Profile) : List Site → Run (List Element)
  | [] => return []
  | site :: sites => do
    let e ← p.classifyRun site
    let further ← elementsRun p sites
    return e.toList ++ further

/-- The run of `Profile.outline`. -/
def outlineRun (p : Profile) (path content : Text) : Run Outline := do
  let elements ← p.elementsRun (Site.follow [] (Text.splitLines content))
  return { path := path, language := p.name, elements := elements }

/-! ## An empty comment marker -/

/-- With an empty comment marker every line is a comment, and none declares anything. -/
lemma classify?_of_empty_marker (h : [] ∈ p.commentMarkers) (site : Site) :
    p.classify? site = none := by
  cases he : p.classify? site with
  | none => rfl
  | some e =>
    obtain ⟨line, hcode, -⟩ := exists_of_classify? he
    have hno : p.isNoCode (Text.trim site.line) = true := by
      rw [isNoCode, Comment.isComment, Bool.or_eq_true]
      exact Or.inr (List.any_eq_true.mpr ⟨[], h, rfl⟩)
    exact nomatch hno.symm.trans (code?_eq_some hcode).1

/-! ## Runs that come to an end -/

/-- The documentation of a declaration is found if no marker is empty. -/
lemma gives_documentation (hdoc : [] ∉ p.docMarkers) (hcomment : [] ∉ p.commentMarkers)
    (site : Site) (k : Kind) : (p.documentationRun site k).Gives (p.documentation site k) := by
  unfold documentationRun documentation
  cases p.docPlacement with
  | before => exact gives_above hdoc _ _
  | after =>
    refine (gives_below hdoc _ _).bind ?_
    dsimp only
    split
    · exact gives_above hcomment _ _
    · exact gives_pure _

section

variable (hmarkers : [] ∈ p.docMarkers → [] ∈ p.commentMarkers)

include hmarkers

/-- What a line declares is found. -/
lemma gives_classify (site : Site) : (p.classifyRun site).Gives (p.classify? site) := by
  unfold classifyRun
  by_cases hcomment : [] ∈ p.commentMarkers
  · rw [classify?_of_empty_marker hcomment]
    exact gives_pure _
  · cases he : p.classify? site with
    | none => exact gives_pure _
    | some e =>
      obtain ⟨line, -, rule, -, found, -, hfound⟩ := exists_of_classify? he
      have hdoc := (declares_of_elementOf? hfound).documentation
      refine (gives_documentation (fun h => hcomment (hmarkers h)) hcomment site e.kind).bind ?_
      rw [← hdoc]
      exact gives_pure _

/-- What some lines declare is found. -/
lemma gives_elements (sites : List Site) :
    (p.elementsRun sites).Gives (sites.filterMap p.classify?) := by
  induction sites with
  | nil => exact gives_pure _
  | cons site sites ih =>
    have heq : (site :: sites).filterMap p.classify? =
        (p.classify? site).toList ++ sites.filterMap p.classify? := by
      rw [List.filterMap_cons]
      cases p.classify? site <;> rfl
    rw [heq]
    exact (gives_classify hmarkers site).bind (ih.bind (gives_pure _))

/-- **The outline of a text is found** by a profile whose comment markers include the empty one if
its markers of documentation do. -/
lemma gives_outline (path content : Text) :
    (p.outlineRun path content).Gives (p.outline path content) :=
  (gives_elements hmarkers _).bind (gives_pure _)

end

/-- No built-in language has an empty marker, so that its outlines are found. -/
theorem gives_outline_of_builtin (hp : p ∈ Language.builtin) (path content : Text) :
    (p.outlineRun path content).Gives (p.outline path content) := by
  have hnone : ∀ q ∈ Language.builtin, [] ∉ q.docMarkers := by decide +kernel
  exact gives_outline (fun h => absurd h (hnone p hp)) path content

end DeclIndex.Profile
