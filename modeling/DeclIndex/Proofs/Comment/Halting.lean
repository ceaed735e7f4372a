import DeclIndex.Comment
import DeclIndex.Proofs.Order
import DeclIndex.Proofs.Text.Loop
import DeclIndex.Proofs.Text.Trim

/-!
# Loops over markers

Markers are stripped from the two ends of a comment line by two loops, which pass over the line
again and again. A marker that is not empty makes the line shorter, so that the loops come to an
end; one that is empty begins every line and makes none shorter, so that the first loop goes on for
ever unless the other markers leave nothing.

A run of a function that strips comment lines consists of the lines that it strips and of what it
comes to, if it comes to an end.

## Main definitions

* `Comment.passStart`, `Comment.passEnd` — one pass of each loop.
* `Comment.Run` — what a function that strips comment lines does.
* `Comment.Run.Gives` — a run that comes to an end, without a line on which it might not.

## Main results

* `Comment.eval_passStart`, `Comment.eval_passEnd` — without an empty marker the loops end.
* `Comment.Run.eq_nil_of_mem_result_strip`, `Comment.Run.result_strip_eq_none` — with an empty
  marker the stripping of a line goes on for ever, unless the other markers leave nothing of it.
* `Comment.Run.gives_above`, `Comment.Run.gives_below` — comments are found without hanging.
-/

namespace DeclIndex.Comment

open StateTransition (eval mem_eval)
open Text (eval_of_none eval_eq_none eval_eq_some)

variable {markers : List Text}

/-! ## Loops -/

/-- A line after one pass over its start, or nothing if no further pass is needed. -/
def passStart (markers : List Text) (line : Text) : Option Text :=
  if line.isEmpty then none
  else (opening? markers line).map fun m => Text.trimStart (line.drop m.length)

/-- A line after one pass over its end, or nothing if no further pass is needed. -/
def passEnd (markers : List Text) (line : Text) : Option Text :=
  if line.isEmpty then none
  else (ending? markers line).map fun m => Text.trimEnd (line.take (line.length - m.length))

/-! ## Markers that are empty -/

/-- Some marker begins every line if one is empty. -/
lemma opening?_ne_none {line : Text} (h : [] ∈ markers) : opening? markers line ≠ none := by
  intro hnone
  have hnot := List.find?_eq_none.mp hnone [] ((mem_sortBy _ _ _).mpr h)
  simp [Text.startsWith] at hnot

/-- With an empty marker the loop over the start of a line ends only when nothing is left. -/
lemma eq_nil_of_mem_eval_passStart {line rest : Text} (hempty : [] ∈ markers)
    (h : rest ∈ eval (passStart markers) line) : rest = [] := by
  have hpass := (mem_eval.mp h).2
  unfold passStart at hpass
  split at hpass
  · exact List.isEmpty_iff.mp ‹_›
  · exact absurd (Option.map_eq_none_iff.mp hpass) (opening?_ne_none hempty)

/-! ## Markers that are not empty -/

/-- A line that loses as many characters as a marker has is shorter than before. -/
private lemma length_lt_of_le_sub (hempty : [] ∉ markers) {m line next : Text}
    (hm : m ∈ longestFirst markers) (hline : ¬ line.isEmpty = true)
    (hle : next.length ≤ line.length - m.length) : next.length < line.length := by
  have hmem : m ∈ markers := (mem_sortBy _ _ _).mp hm
  have hmarker : 0 < m.length := List.length_pos_iff.mpr (ne_of_mem_of_not_mem hmem hempty)
  have hpos : 0 < line.length := List.length_pos_iff.mpr (by simpa using hline)
  omega

/-- Without an empty marker a pass over the start of a line makes it shorter. -/
lemma length_lt_of_passStart (hempty : [] ∉ markers) {line next : Text}
    (h : passStart markers line = some next) : next.length < line.length := by
  unfold passStart at h
  split at h
  · cases h
  · rename_i hline
    obtain ⟨m, hm, rfl⟩ := Option.map_eq_some_iff.mp h
    refine length_lt_of_le_sub hempty (List.mem_of_find?_eq_some hm) hline ?_
    rw [← List.length_drop]
    exact (Text.trimStart_isSuffix _).length_le

/-- Without an empty marker a pass over the end of a line makes it shorter. -/
lemma length_lt_of_passEnd (hempty : [] ∉ markers) {line next : Text}
    (h : passEnd markers line = some next) : next.length < line.length := by
  unfold passEnd at h
  split at h
  · cases h
  · rename_i hline
    obtain ⟨m, hm, rfl⟩ := Option.map_eq_some_iff.mp h
    refine length_lt_of_le_sub hempty (List.mem_of_find?_eq_some hm) hline ?_
    exact (Text.trimEnd_isPrefix _).length_le.trans (List.length_take_le _ _)

/-- Without an empty marker the loop over the start of a line ends. -/
lemma eval_passStart (hempty : [] ∉ markers) (line : Text) :
    eval (passStart markers) line = Part.some (stripStart markers line.length line) := by
  refine eval_eq_some (fun _ => rfl) (fun n line => ?_)
    (fun line next => length_lt_of_passStart hempty) le_rfl
  rw [stripStart, passStart]
  split
  · rfl
  · cases opening? markers line <;> rfl

/-- Without an empty marker the loop over the end of a line ends. -/
lemma eval_passEnd (hempty : [] ∉ markers) (line : Text) :
    eval (passEnd markers) line = Part.some (stripEnd markers line.length line) := by
  refine eval_eq_some (fun _ => rfl) (fun n line => ?_)
    (fun line next => length_lt_of_passEnd hempty) le_rfl
  rw [stripEnd, passEnd]
  split
  · rfl
  · cases ending? markers line <;> rfl

/-! ## Runs -/

/-- What a function that strips comment lines does: the lines that it strips, each with the markers,
and what it comes to, if it comes to an end. -/
structure Run (α : Type) where
  stripped : Set (List Text × Text)
  result : Part α

namespace Run

instance : Monad Run where
  pure a := ⟨∅, Part.some a⟩
  bind r f :=
    { stripped := r.stripped ∪ {job | ∃ a ∈ r.result, job ∈ (f a).stripped}
      result := r.result.bind fun a => (f a).result }

/-- A run comes to an end with `a`, and no line with any text is stripped of an empty marker. -/
structure Gives {α : Type} (r : Run α) (a : α) : Prop where
  result : r.result = Part.some a
  stripped : ∀ job ∈ r.stripped, Text.trim job.2 ≠ [] → [] ∉ job.1

section

variable {α β : Type}

/-- A run that does nothing. -/
lemma gives_pure (a : α) : (pure a : Run α).Gives a where
  result := rfl
  stripped := fun _ h => absurd h (Set.notMem_empty _)

/-- A run goes on with what its first part comes to. -/
lemma Gives.bind {r : Run α} {f : α → Run β} {a : α} {b : β} (hr : r.Gives a)
    (hf : (f a).Gives b) : (r >>= f).Gives b where
  result := by
    change (r.result.bind fun a => (f a).result) = Part.some b
    rw [hr.result, Part.bind_some, hf.result]
  stripped := by
    rintro job (hjob | ⟨v, hv, hjob⟩)
    · exact hr.stripped job hjob
    · rw [hr.result, Part.mem_some_iff] at hv
      subst hv
      exact hf.stripped job hjob

end

/-- The run of `Comment.strip`. The second loop meets an empty marker only where the first has left
nothing. -/
def strip (markers : List Text) (line : Text) : Run Text where
  stripped := {(markers, line)}
  result := (eval (passStart markers) (Text.trim line)).bind (eval (passEnd markers))

/-- The run of `Comment.textOf`. -/
def textOf (markers : List Text) (line : Text) : Run (List Text) := do
  let text ← strip markers line
  return if text.isEmpty then [] else [text]

/-- The run of `Comment.linesAbove`. -/
def linesAbove (markers : List Text) : Nat → List Text → Run (List Text)
  | 0, _ => return []
  | _, [] => return []
  | depth + 1, line :: above => do
    let line := Text.trim line
    if line.isEmpty then linesAbove markers (depth + 1) above
    else if isComment markers line then
      let text ← textOf markers line
      let further ← linesAbove markers depth above
      return further ++ text
    else return []

/-- The run of `Comment.above`. -/
def above (markers : List Text) (depth : Nat) (lines : List Text) : Run Text := do
  let texts ← linesAbove markers depth lines
  return Text.joinWith [' '] texts

/-- The run of `Comment.linesToMarker`. -/
def linesToMarker (markers : List Text) (marker : Text) : Nat → List Text → Run (List Text)
  | 0, _ => return []
  | _, [] => return []
  | depth + 1, line :: below => do
    let line := Text.trim line
    let text ← textOf markers line
    if Text.contains marker line then return text
    else
      let further ← linesToMarker markers marker depth below
      return text ++ further

/-- The run of `Comment.linesWithMarker`. -/
def linesWithMarker (markers : List Text) (marker : Text) : Nat → List Text → Run (List Text)
  | 0, _ => return []
  | _, [] => return []
  | depth + 1, line :: below => do
    let line := Text.trim line
    if line.startsWith marker then
      let text ← textOf markers line
      let further ← linesWithMarker markers marker depth below
      return text ++ further
    else return []

/-- The run of `Comment.linesBelow`. -/
def linesBelow (markers : List Text) (depth : Nat) (first : Text) (below : List Text) :
    Run (List Text) :=
  match opening? markers (Text.trim first), depth with
  | none, _ => return []
  | _, 0 => return []
  | some marker, depth + 1 =>
    if quoteMarkers.contains marker then
      if closesAtOnce marker (Text.trim first) then textOf markers first
      else do
        let text ← textOf markers first
        let further ← linesToMarker markers marker depth below
        return text ++ further
    else linesWithMarker markers marker (depth + 1) (first :: below)

/-- The run of `Comment.below`. -/
def below (markers : List Text) (depth : Nat) (lines : List Text) : Run Text :=
  match lines.dropWhile fun line => (Text.trim line).isEmpty with
  | [] => return []
  | first :: rest => do
    let texts ← linesBelow markers depth first rest
    return Text.joinWith [' '] texts

/-! ## Runs with an empty marker -/

/-- With an empty marker the stripping of a line comes to an end only when nothing is left. -/
lemma eq_nil_of_mem_result_strip (hempty : [] ∈ markers) {line rest : Text}
    (h : rest ∈ (strip markers line).result) : rest = [] := by
  obtain ⟨start, hstart, hend⟩ := Part.mem_bind_iff.mp h
  obtain rfl := eq_nil_of_mem_eval_passStart hempty hstart
  rw [eval_of_none rfl] at hend
  exact Part.mem_some_iff.mp hend

/-- The stripping of a line goes on for ever if the longest marker that its text begins with is
empty. -/
lemma result_strip_eq_none {line : Text} (hline : Text.trim line ≠ [])
    (hopening : opening? markers (Text.trim line) = some []) :
    (strip markers line).result = Part.none := by
  have hpass : passStart markers (Text.trim line) = some (Text.trim line) := by
    rw [passStart, if_neg (by simpa using hline), hopening, Option.map_some]
    exact congrArg some (Text.trimStart_eq_self (Text.any_head?_trim line))
  unfold strip
  rw [eval_eq_none hpass, Part.bind_none]

example : (strip ["#", ""] "text").result = Part.none :=
  result_strip_eq_none (by decide) (by decide)

/-! ## Runs without an empty marker -/

section

variable (hempty : [] ∉ markers)

include hempty

/-- A comment line is stripped of markers none of which is empty. -/
lemma gives_strip (line : Text) : (strip markers line).Gives (Comment.strip markers line) where
  result := by
    rw [strip, eval_passStart hempty, Part.bind_some, eval_passEnd hempty]
    rfl
  stripped := by
    intro job hjob _
    obtain rfl := Set.mem_singleton_iff.mp hjob
    exact hempty

/-- The text of a comment line. -/
lemma gives_textOf (line : Text) : (textOf markers line).Gives (Comment.textOf markers line) :=
  (gives_strip hempty line).bind (gives_pure _)

/-- The texts of the comment lines above a declaration. -/
lemma gives_linesAbove (depth : Nat) (lines : List Text) :
    (linesAbove markers depth lines).Gives (Comment.linesAbove markers depth lines) := by
  induction lines generalizing depth with
  | nil => cases depth <;> exact gives_pure _
  | cons line lines ih =>
    cases depth with
    | zero => exact gives_pure _
    | succ depth =>
      rw [linesAbove, Comment.linesAbove]
      split
      · exact ih (depth + 1)
      · split
        · exact (gives_textOf hempty _).bind ((ih depth).bind (gives_pure _))
        · exact gives_pure _

/-- **The comment above a declaration is found** if no marker is empty. -/
lemma gives_above (depth : Nat) (lines : List Text) :
    (above markers depth lines).Gives (Comment.above markers depth lines) :=
  (gives_linesAbove hempty depth lines).bind (gives_pure _)

/-- The texts up to a closing marker. -/
lemma gives_linesToMarker (marker : Text) (depth : Nat) (lines : List Text) :
    (linesToMarker markers marker depth lines).Gives
      (Comment.linesToMarker markers marker depth lines) := by
  induction lines generalizing depth with
  | nil => cases depth <;> exact gives_pure _
  | cons line lines ih =>
    cases depth with
    | zero => exact gives_pure _
    | succ depth =>
      rw [linesToMarker, Comment.linesToMarker]
      refine (gives_textOf hempty _).bind ?_
      split
      · rw [List.append_nil]
        exact gives_pure _
      · exact (ih depth).bind (gives_pure _)

/-- The texts of a run of lines with a marker. -/
lemma gives_linesWithMarker (marker : Text) (depth : Nat) (lines : List Text) :
    (linesWithMarker markers marker depth lines).Gives
      (Comment.linesWithMarker markers marker depth lines) := by
  induction lines generalizing depth with
  | nil => cases depth <;> exact gives_pure _
  | cons line lines ih =>
    cases depth with
    | zero => exact gives_pure _
    | succ depth =>
      rw [linesWithMarker, Comment.linesWithMarker]
      split
      · exact (gives_textOf hempty _).bind ((ih depth).bind (gives_pure _))
      · exact gives_pure _

/-- The texts of a documentation string. -/
lemma gives_linesBelow (depth : Nat) (first : Text) (lines : List Text) :
    (linesBelow markers depth first lines).Gives
      (Comment.linesBelow markers depth first lines) := by
  unfold linesBelow Comment.linesBelow
  cases opening? markers (Text.trim first) with
  | none => exact gives_pure _
  | some marker =>
    cases depth with
    | zero => exact gives_pure _
    | succ depth =>
      dsimp only
      split
      · split
        · exact gives_textOf hempty _
        · exact (gives_textOf hempty _).bind
            ((gives_linesToMarker hempty _ _ _).bind (gives_pure _))
      · exact gives_linesWithMarker hempty _ _ _

/-- **The documentation string below a declaration is found** if no marker is empty. -/
lemma gives_below (depth : Nat) (lines : List Text) :
    (below markers depth lines).Gives (Comment.below markers depth lines) := by
  unfold below Comment.below
  cases lines.dropWhile fun line => (Text.trim line).isEmpty with
  | nil => exact gives_pure _
  | cons first rest => exact (gives_linesBelow hempty _ _ _).bind (gives_pure _)

end

end Run

end DeclIndex.Comment
