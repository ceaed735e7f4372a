import DeclIndex.Proofs.Scan.Task
import Mathlib.Logic.Relation

/-!
# Schedules of a scan

A scan with several workers, one atomic step after the other. It resets the counts, unless there is
no directory to scan, and pairs the files with profiles. Then workers begin with tasks and finish
them in any order, and what comes of finished tasks is collected in any order. With one worker, or
with a single task, each task is collected before the next one begins.

A task is waiting, being read, closed (it is known what becomes of it) or collected. The invariant
says that the tasks in these four states, with those of the files ahead, are the tasks of the scan,
and that the counts so far are those of the tasks that have come far enough.

## Main definitions

* `Scanner.Job`, `Scanner.Progress` — what a run is asked for, and where it stands.
* `Scanner.Step` — one atomic step.
* `Scanner.Consistent` — the invariant of every schedule.
* `Scanner.InOrder` — what holds in addition with one worker.

## Main results

* `Scanner.Step.consistent`, `Scanner.Step.inOrder` — each step preserves them.
* `Scanner.Step.remaining_lt`, `Scanner.exists_step` — a run goes on, and not for ever.
-/

namespace DeclIndex

namespace Scanner

/-! ## Runs -/

/-- What a run is asked for. -/
structure Job where
  scanner : Scanner
  /-- The number of workers asked for. -/
  workers : Int
  tree : Directory
  root : Path

/-- The stages of a run. -/
inductive Stage
  | starting
  | refused (fault : RootFault)
  | scanning
  deriving DecidableEq

/-- Where a run stands. -/
structure Progress where
  stage : Stage
  /-- The files that have not been paired with a profile. -/
  ahead : List (Path × File)
  /-- The tasks that no worker has begun with. -/
  waiting : List Task
  /-- The tasks that workers have begun with. -/
  reading : List Task
  /-- The tasks of which it is known what becomes of them. -/
  closed : List Task
  /-- The tasks whose outlines have been collected. -/
  collected : List Task
  stats : Stats
  /-- The outlines with elements, in the order in which they have been collected. -/
  results : List Outline

namespace Progress

/-- A run that starts when the counts of the latest run are given. -/
def start (previous : Stats) : Progress :=
  ⟨.starting, [], [], [], [], [], previous, []⟩

/-- A run that is about to walk through some files. -/
def ofFiles (files : List (Path × File)) : Progress :=
  ⟨.scanning, files, [], [], [], [], {}, []⟩

/-- The number of tasks that have been paired. -/
def total (m : Progress) : Nat :=
  m.waiting.length + m.reading.length + m.closed.length + m.collected.length

/-- The tasks of which it is known what becomes of them, collected or not. -/
def settled (m : Progress) : List Task :=
  m.collected ++ m.closed

/-- The outlines that are returned at the end. -/
def returned (m : Progress) : List Outline :=
  sortBy (fun a b => Text.before a.path b.path) m.results

/-- The run has ended. -/
def Ended (m : Progress) : Prop :=
  (∃ fault, m.stage = .refused fault) ∨
    m.stage = .scanning ∧ m.ahead = [] ∧ m.waiting = [] ∧ m.reading = [] ∧ m.closed = []

end Progress

namespace Job

/-- One worker does all the work: only one is asked for, or there are fewer than two tasks. -/
def IsSequential (j : Job) (total : Nat) : Prop :=
  max 1 j.workers = 1 ∨ total < 2

/-- A worker may begin with the task that comes after `before` among those that wait. -/
def MayBegin (j : Job) (m : Progress) (before : List Task) : Prop :=
  (j.IsSequential m.total → before = [] ∧ m.reading = [] ∧ m.closed = []) ∧
    (¬j.IsSequential m.total → (m.reading.length : Int) < max 1 j.workers)

/-- The files that a run walks through. -/
def files (j : Job) : List (Path × File) :=
  j.tree.walk j.scanner.exclude j.root

end Job

/-- One atomic step of a run. -/
inductive Step (j : Job) : Progress → Progress → Prop
  /-- There is no directory to scan. -/
  | refuse {m : Progress} {fault : RootFault} (hstage : m.stage = .starting)
      (hroot : rootOf j.tree j.root = .error fault) : Step j m { m with stage := .refused fault }
  /-- The counts are reset. -/
  | reset {m : Progress} {inside : Directory} (hstage : m.stage = .starting)
      (hroot : rootOf j.tree j.root = .ok inside) :
      Step j m (.ofFiles (inside.filesBelow j.scanner.exclude j.root))
  /-- A file has no profile. -/
  | skip {m : Progress} {f : Path × File} {files : List (Path × File)}
      (hstage : m.stage = .scanning) (hahead : m.ahead = f :: files)
      (htask : j.scanner.task? f = none) :
      Step j m { m with
        ahead := files
        stats := { m.stats with skipped := m.stats.skipped + 1 } }
  /-- A file is paired with its profile. -/
  | pair {m : Progress} {f : Path × File} {files : List (Path × File)} {t : Task}
      (hstage : m.stage = .scanning) (hahead : m.ahead = f :: files)
      (htask : j.scanner.task? f = some t) :
      Step j m { m with ahead := files, waiting := m.waiting ++ [t] }
  /-- A worker begins with a task. -/
  | begin {m : Progress} {before after : List Task} {t : Task}
      (hstage : m.stage = .scanning) (hahead : m.ahead = [])
      (hwaiting : m.waiting = before ++ t :: after) (hmay : j.MayBegin m before) :
      Step j m { m with
        waiting := before ++ after
        reading := m.reading ++ [t]
        stats := { m.stats with processed := m.stats.processed + 1 } }
  /-- A worker finishes a task. -/
  | finish {m : Progress} {before after : List Task} {t : Task}
      (hstage : m.stage = .scanning) (hreading : m.reading = before ++ t :: after) :
      Step j m { m with
        reading := before ++ after
        closed := m.closed ++ [t]
        stats := m.stats.settle t.path.text (t.outcome j.scanner) }
  /-- The outline of a task is collected. -/
  | collect {m : Progress} {before after : List Task} {t : Task}
      (hstage : m.stage = .scanning) (hclosed : m.closed = before ++ t :: after) :
      Step j m { m with
        closed := before ++ after
        collected := m.collected ++ [t]
        results := m.results ++ (t.outline? j.scanner).toList }

/-- Any number of steps, by any workers in any order. -/
abbrev Steps (j : Job) : Progress → Progress → Prop :=
  Relation.ReflTransGen (Step j)

/-! ## The invariant -/

/-- The tasks of a scan of some files are waiting, being read, closed, collected or ahead, and the
counts are those of the tasks that have come far enough. -/
structure Consistent (s : Scanner) (files : List (Path × File)) (m : Progress) : Prop where
  tasks : (m.collected ++ (m.closed ++ (m.reading ++ (m.waiting ++ s.tasks m.ahead)))).Perm
    (s.tasks files)
  skipped : m.stats.skipped + s.skipped m.ahead = s.skipped files
  processed : m.stats.processed = m.reading.length + m.settled.length
  succeeded : m.stats.succeeded = m.settled.countP fun t => (t.failure? s).isNone
  failed : m.stats.failed = m.stats.errors.length
  errors : m.stats.errors.Perm (m.settled.filterMap (Task.failure? s))
  results : m.results = m.collected.filterMap (Task.outline? s)

/-- With one worker, the tasks are dealt with in the order of the files, one at a time. -/
structure InOrder (s : Scanner) (files : List (Path × File)) (m : Progress) : Prop where
  tasks : m.collected ++ (m.closed ++ (m.reading ++ (m.waiting ++ s.tasks m.ahead))) = s.tasks files
  single : m.closed.length + m.reading.length ≤ 1
  errors : m.stats.errors = m.settled.filterMap (Task.failure? s)

/-- A task that moves from the middle of one list to the end of the list before it. -/
lemma perm_move {α : Type} (l before after : List α) (a : α) :
    (l ++ [a] ++ (before ++ after)).Perm (l ++ (before ++ a :: after)) := by
  have hmiddle : (a :: (before ++ after)).Perm (before ++ a :: after) := List.perm_middle.symm
  rw [List.append_assoc]
  exact hmiddle.append_left l

variable {s : Scanner} {files : List (Path × File)}

/-- The first file ahead has no profile. -/
lemma tasks_cons_of_none {f : Path × File} (htask : s.task? f = none)
    (files : List (Path × File)) :
    s.tasks (f :: files) = s.tasks files ∧ s.skipped (f :: files) = s.skipped files + 1 := by
  have hp : s.profileFor? f.1 = none := by simpa [task?] using htask
  refine ⟨List.filterMap_cons_none htask, ?_⟩
  rw [skipped, List.countP_cons_of_pos (by rw [hp]; rfl)]
  rfl

/-- The first file ahead has a profile. -/
lemma tasks_cons_of_some {f : Path × File} {t : Task} (htask : s.task? f = some t)
    (files : List (Path × File)) :
    s.tasks (f :: files) = t :: s.tasks files ∧ s.skipped (f :: files) = s.skipped files := by
  have hp : (s.profileFor? f.1).isNone = false := by
    rw [Option.isNone_eq_false_iff, ← Option.isSome_map, ← task?, htask]
    rfl
  refine ⟨List.filterMap_cons_some htask, ?_⟩
  rw [skipped, List.countP_cons_of_neg (by rw [hp]; exact Bool.false_ne_true)]
  rfl

/-- At the start of a scan everything is ahead. -/
lemma consistent_ofFiles : Consistent s files (.ofFiles files) where
  tasks := List.Perm.refl _
  skipped := Int.zero_add _
  processed := rfl
  succeeded := rfl
  failed := rfl
  errors := List.Perm.refl _
  results := rfl

/-- At the start of a scan everything is in order. -/
lemma inOrder_ofFiles : InOrder s files (.ofFiles files) where
  tasks := rfl
  single := Nat.zero_le _
  errors := rfl

/-- **Each step keeps the account.** Whatever step a run takes once it has begun to scan, the
invariant is preserved.

**Proof sketch.** By cases on the step. A step moves one file or task to the next list, and changes
those counts that count this list. -/
theorem Step.consistent {j : Job} {m n : Progress} (h : Step j m n) (hstage : m.stage = .scanning)
    (hm : Consistent j.scanner files m) :
    n.stage = .scanning ∧ Consistent j.scanner files n := by
  cases h with
  | refuse hstart _ => rw [hstart] at hstage; cases hstage
  | reset hstart _ => rw [hstart] at hstage; cases hstage
  | @skip f ahead _ hahead htask =>
    obtain ⟨htasks, hskipped⟩ := tasks_cons_of_none htask ahead
    refine ⟨hstage, { hm with tasks := ?_, skipped := ?_ }⟩
    · rw [← htasks, ← hahead]
      exact hm.tasks
    · have := hm.skipped
      rw [hahead, hskipped] at this
      show m.stats.skipped + 1 + (j.scanner.skipped ahead : Int) = _
      omega
  | @pair f ahead t _ hahead htask =>
    obtain ⟨htasks, hskipped⟩ := tasks_cons_of_some htask ahead
    refine ⟨hstage, { hm with tasks := ?_, skipped := ?_ }⟩
    · have := hm.tasks
      rw [hahead, htasks] at this
      rw [List.append_assoc, List.singleton_append]
      exact this
    · rw [← hskipped, ← hahead]
      exact hm.skipped
  | @begin before after t _ hahead hwaiting _ =>
    refine ⟨hstage, { hm with tasks := ?_, processed := ?_ }⟩
    · refine ((((?_ : List.Perm _ _).append_left _).append_left _).trans hm.tasks)
      rw [hwaiting, List.append_assoc before after, List.append_assoc before (t :: after)]
      exact perm_move m.reading before (after ++ _) t
    · have := hm.processed
      show m.stats.processed + 1 = ((m.reading ++ [t]).length : Int) + m.settled.length
      rw [List.length_append, List.length_singleton]
      omega
  | @finish before after t _ hreading =>
    rw [settle_task]
    have hsettled : m.collected ++ (m.closed ++ [t]) = m.settled ++ [t] :=
      (List.append_assoc _ _ _).symm
    refine ⟨hstage, ⟨?_, hm.skipped, ?_, ?_, ?_, ?_, hm.results⟩⟩
    · refine ((?_ : List.Perm _ _).append_left _).trans hm.tasks
      rw [hreading, List.append_assoc before after, List.append_assoc before (t :: after)]
      exact perm_move m.closed before (after ++ _) t
    · show m.stats.processed =
        ((before ++ after).length : Int) + (m.collected ++ (m.closed ++ [t])).length
      have := hm.processed
      rw [hreading] at this
      rw [hsettled]
      simp only [List.length_append, List.length_cons, List.length_nil] at this ⊢
      omega
    · show m.stats.succeeded + _ = (((m.collected ++ (m.closed ++ [t])).countP _ : Nat) : Int)
      rw [hsettled, hm.succeeded, List.countP_append, List.countP_singleton]
      split <;> simp
    · show m.stats.failed + _ = ((m.stats.errors ++ (t.failure? j.scanner).toList).length : Int)
      rw [hm.failed, List.length_append]
      rfl
    · show (m.stats.errors ++ (t.failure? j.scanner).toList).Perm
        ((m.collected ++ (m.closed ++ [t])).filterMap _)
      rw [hsettled, filterMap_append_singleton]
      exact hm.errors.append_right _
  | @collect before after t _ hclosed =>
    have hsettled : ((m.collected ++ [t]) ++ (before ++ after)).Perm m.settled := by
      rw [Progress.settled, hclosed]
      exact perm_move m.collected before after t
    refine ⟨hstage, ⟨?_, hm.skipped, ?_, ?_, hm.failed, ?_, ?_⟩⟩
    · refine List.Perm.trans ?_ hm.tasks
      rw [hclosed, List.append_assoc before after, List.append_assoc before (t :: after)]
      exact perm_move m.collected before (after ++ _) t
    · show m.stats.processed =
        (m.reading.length : Int) + ((m.collected ++ [t]) ++ (before ++ after)).length
      rw [hsettled.length_eq]
      exact hm.processed
    · show m.stats.succeeded = ((((m.collected ++ [t]) ++ (before ++ after)).countP _ : Nat) : Int)
      rw [hsettled.countP_eq]
      exact hm.succeeded
    · exact hm.errors.trans (hsettled.symm.filterMap _)
    · show m.results ++ _ = (m.collected ++ [t]).filterMap _
      rw [filterMap_append_singleton, hm.results]

/-- A list in which one element stands and which has at most that one. -/
lemma eq_nil_of_length_le_one {α : Type} {before after : List α} {a : α}
    (h : (before ++ a :: after).length ≤ 1) : before = [] ∧ after = [] := by
  simp only [List.length_append, List.length_cons] at h
  exact ⟨List.length_eq_zero_iff.mp (by omega), List.length_eq_zero_iff.mp (by omega)⟩

/-- **One worker keeps the order.** With one worker, or fewer than two tasks, each step preserves
the order of the files. -/
theorem Step.inOrder {j : Job} {m n : Progress} (h : Step j m n) (hstage : m.stage = .scanning)
    (hone : j.IsSequential (j.scanner.tasks files).length) (hm : InOrder j.scanner files m) :
    InOrder j.scanner files n := by
  cases h with
  | refuse hstart _ => rw [hstart] at hstage; cases hstage
  | reset hstart _ => rw [hstart] at hstage; cases hstage
  | @skip f ahead _ hahead htask =>
    refine { hm with tasks := ?_ }
    rw [← (tasks_cons_of_none htask ahead).1, ← hahead]
    exact hm.tasks
  | @pair f ahead t _ hahead htask =>
    refine { hm with tasks := ?_ }
    have := hm.tasks
    rw [hahead, (tasks_cons_of_some htask ahead).1] at this
    rw [List.append_assoc, List.singleton_append]
    exact this
  | @begin before after t _ hahead hwaiting hmay =>
    have htotal : m.total = (j.scanner.tasks files).length := by
      have hnone : j.scanner.tasks [] = [] := rfl
      have hlength := congrArg List.length hm.tasks
      rw [hahead, hnone] at hlength
      simp only [List.length_append, List.length_nil] at hlength
      unfold Progress.total
      omega
    obtain ⟨rfl, hreading, hclosed⟩ := hmay.1 (htotal ▸ hone)
    refine ⟨?_, ?_, hm.errors⟩
    · have := hm.tasks
      rw [hwaiting, hreading] at this
      rw [hreading]
      exact this
    · rw [hreading, hclosed]
      exact Nat.le_refl 1
  | @finish before after t _ hreading =>
    have hsingle := hm.single
    rw [hreading] at hsingle
    obtain ⟨rfl, rfl⟩ := eq_nil_of_length_le_one (Nat.le_trans (Nat.le_add_left _ _) hsingle)
    have hclosed : m.closed = [] := by
      rw [List.nil_append, List.length_singleton] at hsingle
      exact List.length_eq_zero_iff.mp (by omega)
    rw [settle_task]
    refine ⟨?_, ?_, ?_⟩
    · have := hm.tasks
      rw [hreading, hclosed] at this
      rw [hclosed]
      exact this
    · rw [hclosed]
      exact Nat.le_refl 1
    · show m.stats.errors ++ _ = (m.collected ++ (m.closed ++ [t])).filterMap _
      rw [← List.append_assoc, filterMap_append_singleton, hm.errors]
      rfl
  | @collect before after t _ hclosed =>
    have hsingle := hm.single
    rw [hclosed] at hsingle
    obtain ⟨rfl, rfl⟩ := eq_nil_of_length_le_one (Nat.le_trans (Nat.le_add_right _ _) hsingle)
    refine ⟨?_, ?_, ?_⟩
    · have := hm.tasks
      rw [hclosed] at this
      show (m.collected ++ [t]) ++ _ = _
      rw [List.append_assoc]
      exact this
    · rw [List.nil_append, List.length_singleton] at hsingle
      show 0 + m.reading.length ≤ 1
      omega
    · have := hm.errors
      rw [Progress.settled, hclosed] at this
      show m.stats.errors = ((m.collected ++ [t]) ++ []).filterMap _
      rw [List.append_nil]
      exact this

/-! ## Going on -/

/-- A bound on the number of steps that are left. -/
def Progress.remaining (j : Job) (m : Progress) : Nat :=
  match m.stage with
  | .starting => 4 * j.files.length + 1
  | .refused _ => 0
  | .scanning =>
    4 * m.ahead.length + 3 * m.waiting.length + 2 * m.reading.length + m.closed.length

/-- The directory to scan is the one that the path leads to. -/
lemma lookup_of_rootOf {d inside : Directory} {root : Path} (h : rootOf d root = .ok inside) :
    d.lookup root = .ok (.dir inside) := by
  unfold rootOf at h
  split at h
  · cases h
    assumption
  all_goals cases h

/-- The files of a run whose directory is there. -/
lemma files_of_rootOf {j : Job} {inside : Directory} (h : rootOf j.tree j.root = .ok inside) :
    j.files = inside.filesBelow j.scanner.exclude j.root := by
  unfold Job.files Directory.walk
  rw [lookup_of_rootOf h]

/-- **Runs end.** Each step leaves fewer steps to take. -/
theorem Step.remaining_lt {j : Job} {m n : Progress} (h : Step j m n) :
    n.remaining j < m.remaining j := by
  unfold Progress.remaining
  cases h with
  | refuse hstage _ =>
    rw [hstage]
    exact Nat.succ_pos _
  | reset hstage hroot =>
    rw [hstage, files_of_rootOf hroot]
    exact Nat.lt_succ_self _
  | skip hstage hahead _ =>
    simp only [hstage, hahead, List.length_cons]
    omega
  | pair hstage hahead _ =>
    simp only [hstage, hahead, List.length_cons, List.length_append, List.length_nil]
    omega
  | begin hstage _ hwaiting _ =>
    simp only [hstage, hwaiting, List.length_cons, List.length_append, List.length_nil]
    omega
  | finish hstage hreading =>
    simp only [hstage, hreading, List.length_cons, List.length_append, List.length_nil]
    omega
  | collect hstage hclosed =>
    simp only [hstage, hclosed, List.length_cons, List.length_append]
    omega

/-- **Runs do not get stuck.** A run that has not ended can take a step. -/
theorem exists_step (j : Job) {m : Progress} (hm : ¬m.Ended) : ∃ n, Step j m n := by
  cases hstage : m.stage with
  | starting =>
    cases hroot : rootOf j.tree j.root with
    | error fault => exact ⟨_, .refuse hstage hroot⟩
    | ok inside => exact ⟨_, .reset hstage hroot⟩
  | refused fault => exact absurd (.inl ⟨fault, hstage⟩) hm
  | scanning =>
    cases hahead : m.ahead with
    | cons f files =>
      cases htask : j.scanner.task? f with
      | none => exact ⟨_, .skip hstage hahead htask⟩
      | some t => exact ⟨_, .pair hstage hahead htask⟩
    | nil =>
      cases hreading : m.reading with
      | cons t after => exact ⟨_, @Step.finish j m [] after t hstage hreading⟩
      | nil =>
        cases hclosed : m.closed with
        | cons t after => exact ⟨_, @Step.collect j m [] after t hstage hclosed⟩
        | nil =>
          cases hwaiting : m.waiting with
          | cons t after =>
            -- nobody is busy, so the first task may begin in either branch
            have hmay : j.MayBegin m [] := by
              refine ⟨fun _ => ⟨rfl, hreading, hclosed⟩, fun _ => ?_⟩
              rw [hreading, List.length_nil]
              omega
            exact ⟨_, .begin hstage hahead hwaiting hmay⟩
          | nil => exact absurd (.inr ⟨hstage, hahead, hwaiting, hreading, hclosed⟩) hm

/-- Every run can be brought to its end. -/
theorem exists_ended (j : Job) (m : Progress) : ∃ n, Steps j m n ∧ n.Ended := by
  induction hleft : m.remaining j using Nat.strongRecOn generalizing m with
  | _ left ih =>
    by_cases hm : m.Ended
    · exact ⟨m, .refl, hm⟩
    · obtain ⟨n, hstep⟩ := exists_step j hm
      obtain ⟨e, hsteps, he⟩ := ih _ (hleft ▸ hstep.remaining_lt) n rfl
      exact ⟨e, hsteps.head hstep, he⟩

end Scanner

end DeclIndex
