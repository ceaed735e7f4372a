import DeclIndex.Scan
import Mathlib.Data.List.Induction
import Mathlib.Tactic.Common

/-!
# The tasks of a scan

A scan pairs every file that has a profile with it. What becomes of such a task does not depend on
the other tasks. So the counts of a scan are counts of its tasks, its errors are the failures among
them, and its outlines are those of the tasks that succeed.

## Main definitions

* `Scanner.Task` — a file and the profile it is outlined with.
* `Stats.settle` — the counts after it is known what becomes of a file.
* `Scanner.Task.failure?`, `Scanner.Task.outline?` — what a task adds to the errors and to the
  outlines.

## Main results

* `Scanner.outline?_eq_some_iff` — which tasks give outlines.
* `Scanner.outlines_tasks`, `Scanner.stats_tasks` — the outlines and the counts of a scan.
-/

namespace DeclIndex

/-- The counts after it is known what becomes of a file that counts as processed. -/
def Stats.settle (st : Stats) (path : Text) : Outcome → Stats
  | .failed message => st.recordFailure path message
  | .outlined _ => { st with succeeded := st.succeeded + 1 }

namespace Scanner

/-- A file and the profile it is outlined with. -/
structure Task where
  path : Path
  profile : Profile
  file : File

namespace Task

variable (s : Scanner) (t : Task)

/-- What becomes of the file. -/
def outcome : Outcome :=
  s.outcome t.profile t.path t.file

/-- The outline of the file, if it has elements. -/
def outline? : Option Outline :=
  (t.outcome s).outline?

/-- The error, if the file cannot be read. -/
def failure? : Option (Text × Text) :=
  match t.outcome s with
  | .failed message => some (t.path.text, message)
  | .outlined _ => none

end Task

/-- The task of a file that has a profile. -/
def task? (s : Scanner) (f : Path × File) : Option Task :=
  (s.profileFor? f.1).map fun p => ⟨f.1, p, f.2⟩

/-- The tasks of a scan, in the order of its files. -/
def tasks (s : Scanner) (files : List (Path × File)) : List Task :=
  files.filterMap s.task?

variable (s : Scanner)

/-! ## Files and tasks -/

/-- What becomes of the files that have a profile is what becomes of the tasks. -/
lemma outcomes_eq_map_tasks (files : List (Path × File)) :
    s.outcomes files = (s.tasks files).map fun t => (t.path.text, t.outcome s) := by
  induction files with
  | nil => rfl
  | cons f files ih =>
    obtain ⟨path, file⟩ := f
    rw [outcomes, tasks, List.filterMap_cons, task?]
    cases hp : s.profileFor? path with
    | none => exact ih
    | some p => exact congrArg _ ih

/-- Every file that has a profile is a task. -/
lemma length_tasks (files : List (Path × File)) :
    (s.tasks files).length = files.countP fun f => (s.profileFor? f.1).isSome := by
  rw [tasks, List.length_filterMap_eq_countP]
  congr 1
  funext f
  exact Option.isSome_map

/-- Every file is a task or is skipped. -/
lemma length_tasks_add_skipped (files : List (Path × File)) :
    (s.tasks files).length + s.skipped files = files.length := by
  rw [length_tasks, List.length_eq_countP_add_countP (fun f => (s.profileFor? f.1).isSome)]
  congr 1
  exact List.countP_congr fun f _ => by simp

/-- The paths of the tasks are paths of files. -/
lemma tasks_paths_sublist (files : List (Path × File)) :
    ((s.tasks files).map fun t => t.path.text).Sublist (files.map fun f => f.1.text) := by
  induction files with
  | nil => exact List.Sublist.slnil
  | cons f files ih =>
    rw [tasks, List.filterMap_cons, task?, List.map_cons]
    cases hp : s.profileFor? f.1 with
    | none => exact ih.cons _
    | some p => exact ih.cons_cons _

/-! ## Outcomes of tasks -/

/-- One more task adds at most one. -/
lemma filterMap_append_singleton {α : Type} (f : Task → Option α) (l : List Task) (t : Task) :
    (l ++ [t]).filterMap f = l.filterMap f ++ (f t).toList := by
  rw [List.filterMap_append]
  cases h : f t <;> simp [h]

/-- The counts after it is known what becomes of a task. -/
lemma settle_task (st : Stats) (t : Task) :
    st.settle t.path.text (t.outcome s) =
      { st with
        succeeded := st.succeeded + if (t.failure? s).isNone then 1 else 0
        failed := st.failed + (t.failure? s).toList.length
        errors := st.errors ++ (t.failure? s).toList } := by
  unfold Task.failure?
  cases t.outcome s with
  | failed message => simp [Stats.settle, Stats.recordFailure]
  | outlined o => simp [Stats.settle]

/-- A task that does not fail is outlined. -/
lemma countP_add_length_failures (l : List Task) :
    l.countP (fun t => (t.failure? s).isNone) + (l.filterMap (Task.failure? s)).length =
      l.length := by
  rw [List.length_filterMap_eq_countP, Nat.add_comm,
    List.length_eq_countP_add_countP (fun t : Task => (t.failure? s).isSome)]
  congr 1
  exact List.countP_congr fun t _ => by simp

/-- A file is outlined if it is within the limit and can be read and decoded. -/
lemma outcome_eq_outlined_iff {p : Profile} {path : Path} {file : File} {o : Outline} :
    s.outcome p path file = .outlined o ↔ ∃ content text, file = .readable content ∧
      s.isTooLarge content.length = false ∧ Utf8.decode content = .ok text ∧
        o = p.outline path.text (Text.unifyBreaks text) := by
  unfold outcome
  cases file with
  | readable content =>
    simp only [File.size, File.content, File.readable.injEq, exists_eq_left', exists_and_left]
    cases hlarge : s.isTooLarge content.length with
    | true => simp
    | false =>
      rw [if_neg Bool.false_ne_true]
      cases hdecode : Utf8.decode content with
      | error fault => simp
      | ok text => simp [eq_comm]
  | closed size said =>
    simp only [File.size, File.content]
    split <;> simp
  | lost said => simp [File.size]

/-- The outline of a task is that of its path. -/
lemma path_of_outline? {t : Task} {o : Outline} (h : t.outline? s = some o) :
    o.path = t.path.text := by
  unfold Task.outline? at h
  cases houtcome : t.outcome s with
  | failed message =>
    rw [houtcome] at h
    cases h
  | outlined o' =>
    obtain ⟨content, text, -, -, -, rfl⟩ := (outcome_eq_outlined_iff s).mp houtcome
    rw [houtcome, Outcome.outline?] at h
    split at h
    · cases h
    · cases h
      rfl

/-- The paths of the outlines are paths of tasks. -/
lemma outlines_paths_sublist (l : List Task) :
    ((l.filterMap (Task.outline? s)).map Outline.path).Sublist (l.map fun t => t.path.text) := by
  induction l with
  | nil => exact List.Sublist.slnil
  | cons t l ih =>
    rw [List.filterMap_cons, List.map_cons]
    cases ho : t.outline? s with
    | none => exact ih.cons _
    | some o =>
      rw [List.map_cons, path_of_outline? s ho]
      exact ih.cons_cons _

/-- A task gives an outline if its file is within the limit, can be read and decoded and has
elements. -/
lemma outline?_eq_some_iff (t : Task) (o : Outline) :
    t.outline? s = some o ↔ ∃ content text, t.file = .readable content ∧
      s.isTooLarge content.length = false ∧ Utf8.decode content = .ok text ∧
        o = t.profile.outline t.path.text (Text.unifyBreaks text) ∧ o.elements ≠ [] := by
  have houtlined : t.outline? s = some o ↔ t.outcome s = .outlined o ∧ o.elements ≠ [] := by
    unfold Task.outline?
    cases t.outcome s with
    | failed message => simp [Outcome.outline?]
    | outlined o' =>
      rw [Outcome.outline?, Outcome.outlined.injEq]
      split
      · rename_i hempty
        exact ⟨nofun, fun ⟨heq, hne⟩ => absurd (List.isEmpty_iff.mp hempty) (heq ▸ hne)⟩
      · rename_i hempty
        exact ⟨fun h => ⟨Option.some.inj h, Option.some.inj h ▸ fun h => hempty (by simp [h])⟩,
          fun h => congrArg some h.1⟩
  rw [houtlined, Task.outcome, outcome_eq_outlined_iff]
  constructor
  · rintro ⟨⟨content, text, hfile, hlarge, htext, ho⟩, hne⟩
    exact ⟨content, text, hfile, hlarge, htext, ho, hne⟩
  · rintro ⟨content, text, hfile, hlarge, htext, ho, hne⟩
    exact ⟨⟨content, text, hfile, hlarge, htext, ho⟩, hne⟩

/-! ## The counts of a scan -/

/-- The outlines of a scan are those of its tasks, in the order of their paths. -/
lemma outlines_tasks (l : List Task) :
    outlines (l.map fun t => (t.path.text, t.outcome s)) =
      sortBy (fun a b => Text.before a.path b.path) (l.filterMap (Task.outline? s)) := by
  rw [outlines, List.filterMap_map]
  rfl

/-- The counts after one more task. -/
lemma record_task (st : Stats) (t : Task) :
    st.record t.path.text (t.outcome s) =
      ({ st with processed := st.processed + 1 } : Stats).settle t.path.text (t.outcome s) := by
  cases t.outcome s <;> rfl

/-- **The counts of a scan are counts of its tasks.** -/
theorem stats_tasks (skipped : Nat) (l : List Task) :
    stats skipped (l.map fun t => (t.path.text, t.outcome s)) =
      { processed := l.length
        succeeded := l.countP fun t => (t.failure? s).isNone
        failed := (l.filterMap (Task.failure? s)).length
        skipped := skipped
        errors := l.filterMap (Task.failure? s) } := by
  induction l using List.reverseRecOn with
  | nil => rfl
  | append_singleton l t ih =>
    have hstep : stats skipped ((l ++ [t]).map fun t => (t.path.text, t.outcome s)) =
        (stats skipped (l.map fun t => (t.path.text, t.outcome s))).record t.path.text
          (t.outcome s) := by
      rw [List.map_append, stats, List.foldl_append]
      rfl
    rw [hstep, ih, record_task, settle_task, filterMap_append_singleton, List.length_append,
      List.length_append, List.countP_append, List.countP_singleton]
    cases t.failure? s <;> simp

end Scanner

end DeclIndex
