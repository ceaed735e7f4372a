import DeclIndex.Proofs.Order
import DeclIndex.Proofs.Scan.Schedule
import DeclIndex.Proofs.Walk

/-!
# What a scan comes to

Whatever the number of workers and the order of their steps, a scan returns the same outlines, and
its counts are the same; only the order of its errors may differ. At every moment the counts are
those of the work done so far. If there is no directory to scan, the counts of the latest run stay.

The outlines do not depend on the order in which they have been collected because they are sorted by
path, and no two files of a walk have the same path.

## Main definitions

* `Scanner.Reached` — what is known of a moment of a run, whatever the stage.

## Main results

* `Scanner.reached_of_steps` — it holds at every moment of every run.
* `Scanner.run_any_schedule` — the account of a scan.
-/

namespace DeclIndex

namespace Scanner

/-! ## Every moment of a run -/

/-- What is known of a moment of a run that began with the counts `previous`. -/
structure Reached (j : Job) (previous : Stats) (m : Progress) : Prop where
  previous : m.stage ≠ .scanning → m.stats = previous
  refused : ∀ fault, m.stage = .refused fault → rootOf j.tree j.root = .error fault
  accepted : m.stage = .scanning → ∃ inside, rootOf j.tree j.root = .ok inside
  consistent : m.stage = .scanning → Consistent j.scanner j.files m
  inOrder : m.stage = .scanning → j.IsSequential (j.scanner.tasks j.files).length →
    InOrder j.scanner j.files m

/-- At the start of a run nothing has changed. -/
lemma reached_start (j : Job) (previous : Stats) : Reached j previous (.start previous) where
  previous _ := rfl
  refused _ h := by cases h
  accepted h := by cases h
  consistent h := by cases h
  inOrder h := by cases h

/-- A step within a scan stays within it. -/
lemma Reached.scanning {j : Job} {previous : Stats} {m n : Progress} (hm : Reached j previous m)
    (hstage : m.stage = .scanning) (h : Step j m n) : Reached j previous n := by
  obtain ⟨hscanning, hconsistent⟩ := h.consistent hstage (hm.consistent hstage)
  exact
    { previous := fun hne => absurd hscanning hne
      refused := fun fault hfault => by rw [hscanning] at hfault; cases hfault
      accepted := fun _ => hm.accepted hstage
      consistent := fun _ => hconsistent
      inOrder := fun _ hone => h.inOrder hstage hone (hm.inOrder hstage hone) }

/-- Each step preserves what is known of a run. -/
theorem Step.reached {j : Job} {previous : Stats} {m n : Progress} (h : Step j m n)
    (hm : Reached j previous m) : Reached j previous n := by
  cases h with
  | refuse hstage hroot =>
    have hstarting : m.stage ≠ .scanning := by simp [hstage]
    exact
      { previous := fun _ => hm.previous hstarting
        refused := fun fault hfault => by cases hfault; exact hroot
        accepted := fun h => by cases h
        consistent := fun h => by cases h
        inOrder := fun h => by cases h }
  | @reset inside hstage hroot =>
    rw [← files_of_rootOf hroot]
    exact
      { previous := fun hne => absurd rfl hne
        refused := fun fault h => by cases h
        accepted := fun _ => ⟨inside, hroot⟩
        consistent := fun _ => consistent_ofFiles
        inOrder := fun _ _ => inOrder_ofFiles }
  | skip hstage hahead htask => exact hm.scanning hstage (.skip hstage hahead htask)
  | pair hstage hahead htask => exact hm.scanning hstage (.pair hstage hahead htask)
  | begin hstage hahead hwaiting hmay =>
    exact hm.scanning hstage (.begin hstage hahead hwaiting hmay)
  | finish hstage hreading => exact hm.scanning hstage (.finish hstage hreading)
  | collect hstage hclosed => exact hm.scanning hstage (.collect hstage hclosed)

/-- **Every moment of every run.** -/
theorem reached_of_steps {j : Job} {previous : Stats} {m : Progress}
    (h : Steps j (.start previous) m) : Reached j previous m := by
  induction h with
  | refl => exact reached_start j previous
  | tail _ hstep ih => exact hstep.reached ih

/-! ## The account -/

namespace Consistent

variable {s : Scanner} {files : List (Path × File)} {m : Progress}

/-- Every settled task has succeeded or failed. -/
lemma succeeded_add_failed (hm : Consistent s files m) :
    m.stats.succeeded + m.stats.failed = m.settled.length := by
  have hcount := countP_add_length_failures s m.settled
  rw [hm.succeeded, hm.failed, hm.errors.length_eq]
  omega

/-- What has succeeded or failed has been counted as processed before. -/
lemma failed_add_succeeded_le (hm : Consistent s files m) :
    m.stats.failed + m.stats.succeeded ≤ m.stats.processed := by
  have hsettled := hm.succeeded_add_failed
  have hprocessed := hm.processed
  omega

end Consistent

/-- The outlines of the tasks of different files have different paths. -/
lemma nodup_outlines (s : Scanner) {files : List (Path × File)}
    (hfiles : (files.map fun f => f.1.text).Nodup) :
    (((s.tasks files).filterMap (Task.outline? s)).map Outline.path).Nodup :=
  ((outlines_paths_sublist s _).trans (tasks_paths_sublist s files)).nodup hfiles

/-- The outlines of the tasks are those of the files that have a profile, can be read and have
elements. -/
lemma mem_outlines_iff (s : Scanner) (files : List (Path × File)) (o : Outline) :
    o ∈ (s.tasks files).filterMap (Task.outline? s) ↔
      ∃ path content profile text, (path, File.readable content) ∈ files ∧
        s.profileFor? path = some profile ∧ s.isTooLarge content.length = false ∧
        Utf8.decode content = .ok text ∧ o = profile.outline path.text (Text.unifyBreaks text) ∧
        o.elements ≠ [] := by
  rw [List.mem_filterMap]
  constructor
  · rintro ⟨t, ht, ho⟩
    obtain ⟨⟨path, file⟩, hf, htask⟩ := List.mem_filterMap.mp ht
    obtain ⟨profile, hprofile, rfl⟩ := Option.map_eq_some_iff.mp htask
    obtain ⟨content, text, rfl, hlarge, hdecode, houtline, hne⟩ :=
      (outline?_eq_some_iff s _ o).mp ho
    exact ⟨path, content, profile, text, hf, hprofile, hlarge, hdecode, houtline, hne⟩
  · rintro ⟨path, content, profile, text, hf, hprofile, hlarge, hdecode, houtline, hne⟩
    refine ⟨⟨path, profile, .readable content⟩, List.mem_filterMap.mpr ⟨_, hf, ?_⟩, ?_⟩
    · rw [task?, hprofile]
      rfl
    · exact (outline?_eq_some_iff s _ o).mpr
        ⟨content, text, rfl, hlarge, hdecode, houtline, hne⟩

/-- The files of a run in a well-formed tree have different paths. -/
lemma nodup_files {j : Job} (hj : j.tree.WellFormed) {inside : Directory}
    (h : rootOf j.tree j.root = .ok inside) : (j.files.map fun f => f.1.text).Nodup := by
  rw [files_of_rootOf h]
  exact Directory.nodup_filesBelow (hj.lookup (lookup_of_rootOf h)) j.scanner.exclude j.root

/-- The run as a function, in terms of tasks. -/
lemma run_eq_tasks {j : Job} {inside : Directory} (h : rootOf j.tree j.root = .ok inside) :
    j.scanner.run j.tree j.root =
      .ok (sortBy (fun a b => Text.before a.path b.path)
          ((j.scanner.tasks j.files).filterMap (Task.outline? j.scanner)),
        { processed := (j.scanner.tasks j.files).length
          succeeded := (j.scanner.tasks j.files).countP fun t => (t.failure? j.scanner).isNone
          failed := ((j.scanner.tasks j.files).filterMap (Task.failure? j.scanner)).length
          skipped := j.scanner.skipped j.files
          errors := (j.scanner.tasks j.files).filterMap (Task.failure? j.scanner) }) := by
  rw [run, h]
  dsimp only
  rw [← files_of_rootOf h, scanFiles, outcomes_eq_map_tasks, outlines_tasks, stats_tasks]

/-! ## The end of a scan -/

section

variable {s : Scanner} {files : List (Path × File)} {m : Progress}

/-- At the end of a scan there are no tasks but those that have been collected. -/
lemma tasks_at_end (s : Scanner)
    (hend : m.ahead = [] ∧ m.waiting = [] ∧ m.reading = [] ∧ m.closed = []) :
    m.settled = m.collected ∧
      m.collected ++ (m.closed ++ (m.reading ++ (m.waiting ++ s.tasks m.ahead))) = m.collected := by
  obtain ⟨hahead, hwaiting, hreading, hclosed⟩ := hend
  have hnone : s.tasks [] = [] := rfl
  rw [Progress.settled, hahead, hwaiting, hreading, hclosed, hnone]
  simp only [List.append_nil, and_self]

/-- At the end of a scan all tasks have been collected. -/
lemma Consistent.settled_perm (hm : Consistent s files m)
    (hend : m.ahead = [] ∧ m.waiting = [] ∧ m.reading = [] ∧ m.closed = []) :
    m.settled = m.collected ∧ m.collected.Perm (s.tasks files) := by
  obtain ⟨hsettled, hall⟩ := tasks_at_end s hend
  exact ⟨hsettled, hall ▸ hm.tasks⟩

/-- At the end of a scan with one worker all tasks have been collected, in order. -/
lemma InOrder.settled_eq (hm : InOrder s files m)
    (hend : m.ahead = [] ∧ m.waiting = [] ∧ m.reading = [] ∧ m.closed = []) :
    m.settled = s.tasks files := by
  obtain ⟨hsettled, hall⟩ := tasks_at_end s hend
  exact hsettled.trans (hall.symm.trans hm.tasks)

/-- At the end of a scan the counts are those of its tasks. -/
lemma Consistent.counts_at_end (hm : Consistent s files m)
    (hend : m.ahead = [] ∧ m.waiting = [] ∧ m.reading = [] ∧ m.closed = []) :
    m.stats.processed = (s.tasks files).length ∧
      m.stats.succeeded = (s.tasks files).countP (fun t => (t.failure? s).isNone) ∧
      m.stats.failed = ((s.tasks files).filterMap (Task.failure? s)).length ∧
      m.stats.skipped = s.skipped files ∧
      m.stats.errors.Perm ((s.tasks files).filterMap (Task.failure? s)) := by
  obtain ⟨hsettled, hperm⟩ := hm.settled_perm hend
  have herrors : m.stats.errors.Perm ((s.tasks files).filterMap (Task.failure? s)) := by
    refine hm.errors.trans ?_
    rw [hsettled]
    exact hperm.filterMap _
  refine ⟨?_, ?_, ?_, ?_, herrors⟩
  · rw [hm.processed, hend.2.2.1, hsettled, hperm.length_eq]
    exact Int.zero_add _
  · rw [hm.succeeded, hsettled, hperm.countP_eq]
  · rw [hm.failed, herrors.length_eq]
  · have hskipped := hm.skipped
    rw [hend.1] at hskipped
    exact (Int.add_zero _).symm.trans hskipped

/-- At the end of a scan the outlines are those of its tasks. -/
lemma Consistent.results_at_end (hm : Consistent s files m)
    (hend : m.ahead = [] ∧ m.waiting = [] ∧ m.reading = [] ∧ m.closed = []) :
    ((s.tasks files).filterMap (Task.outline? s)).Perm m.results := by
  rw [hm.results]
  exact ((hm.settled_perm hend).2.filterMap _).symm

end

/-- **The account of a scan does not depend on the schedule.** Take any run of a scan of a
well-formed tree, with any number of workers and any counts left from earlier, at any moment.

Before it has begun to scan, and if it is refused, the counts are those from earlier. Once it scans,
no more files have succeeded or failed than have been processed, and there is one error for each
that failed. The run can be brought to its end, and no run goes on for ever.

At the end of a scan, what is returned is what the run as a function gives: the outlines of the
readable files within the limit, if they have elements, each once and in the order of their paths.
The counts are the same too, and the errors are, up to their order; with one worker in the same
order. Every file that the walk comes to and that has a profile is processed, and it succeeds or
fails; all others are skipped.

**Proof sketch.** The invariant of the schedule holds at every moment. At the end it says that the
tasks collected are those of the scan in some order. Counts do not depend on the order, and neither
do outlines sorted by path, since a walk comes to no two files with the same path. -/
theorem run_any_schedule (j : Job) (hj : j.tree.WellFormed) (previous : Stats) {m : Progress}
    (hm : Steps j (.start previous) m) :
    (m.stage ≠ .scanning → m.stats = previous) ∧
    (∀ fault, m.stage = .refused fault → j.scanner.run j.tree j.root = .error fault) ∧
    (m.stage = .scanning → m.stats.failed + m.stats.succeeded ≤ m.stats.processed ∧
      m.stats.failed = m.stats.errors.length) ∧
    (∃ n, Steps j m n ∧ n.Ended) ∧ (∀ n, Step j m n → n.remaining j < m.remaining j) ∧
    (m.stage = .scanning → m.Ended → ∃ counts : Stats,
      j.scanner.run j.tree j.root = .ok (m.returned, counts) ∧
      m.stats.processed = counts.processed ∧ m.stats.succeeded = counts.succeeded ∧
      m.stats.failed = counts.failed ∧ m.stats.skipped = counts.skipped ∧
      m.stats.errors.Perm counts.errors ∧
      (j.IsSequential (j.scanner.tasks j.files).length → m.stats = counts) ∧
      m.stats.processed = m.stats.succeeded + m.stats.failed ∧
      m.stats.processed = j.files.countP (fun f => (j.scanner.profileFor? f.1).isSome) ∧
      m.stats.processed + m.stats.skipped = j.files.length ∧
      m.returned.Pairwise (fun a b => Text.before a.path b.path) ∧
      ∀ o, o ∈ m.returned ↔ ∃ path content profile text, (path, .readable content) ∈ j.files ∧
        j.scanner.profileFor? path = some profile ∧
        j.scanner.isTooLarge content.length = false ∧ Utf8.decode content = .ok text ∧
        o = profile.outline path.text (Text.unifyBreaks text) ∧ o.elements ≠ []) := by
  have hreached := reached_of_steps hm
  refine ⟨hreached.previous, fun fault hfault => ?_, fun hstage => ?_, exists_ended j m,
    fun n hn => hn.remaining_lt, fun hstage hended => ?_⟩
  · rw [run, hreached.refused fault hfault]
  · have hconsistent := hreached.consistent hstage
    exact ⟨hconsistent.failed_add_succeeded_le, hconsistent.failed⟩
  obtain ⟨inside, hroot⟩ := hreached.accepted hstage
  have hconsistent := hreached.consistent hstage
  obtain ⟨fault, hfault⟩ | ⟨-, hend⟩ := hended
  · rw [hstage] at hfault
    cases hfault
  obtain ⟨hprocessed, hsucceeded, hfailed, hskipped, herrors⟩ := hconsistent.counts_at_end hend
  have hnodup := nodup_outlines j.scanner (nodup_files hj hroot)
  have hresults := hconsistent.results_at_end hend
  have hrun := run_eq_tasks hroot
  rw [sortBy_text_eq_of_perm Outline.path hresults hnodup] at hrun
  refine ⟨_, hrun, hprocessed, hsucceeded, hfailed, hskipped, herrors, fun hone => ?_, ?_, ?_, ?_,
    ?_, fun o => ?_⟩
  · -- with one worker the errors are in order as well
    have hinOrder := hreached.inOrder hstage hone
    have hordered := hinOrder.errors
    rw [hinOrder.settled_eq hend] at hordered
    rw [← hprocessed, ← hsucceeded, ← hfailed, ← hskipped, ← hordered]
  · rw [hprocessed, hconsistent.succeeded_add_failed, (hconsistent.settled_perm hend).1,
      (hconsistent.settled_perm hend).2.length_eq]
  · rw [hprocessed, length_tasks]
  · have htotal := length_tasks_add_skipped j.scanner j.files
    rw [hprocessed, hskipped]
    omega
  · exact pairwise_sortBy_text Outline.path ((hresults.map _).nodup_iff.mp hnodup)
  · rw [Progress.returned, mem_sortBy, ← hresults.mem_iff]
    exact mem_outlines_iff j.scanner j.files o

/-- Two workers, three files: one that can be outlined, one that cannot be decoded, and one without
a profile. -/
theorem run_any_schedule_two_workers :
    let j : Job := ⟨{ language := some Language.rust }, 2,
      .file "b.rs" (.readable [0xFF]) (.file "a.rs" (.readable (Utf8.encode "mod a;"))
        (.file "c.txt" (.readable []) .empty)), {}⟩
    j.tree.WellFormed ∧ ∃ m, Steps j (.start {}) m ∧ m.Ended ∧ m.stats.processed = 2 ∧
      m.stats.skipped = 1 ∧ m.stats.failed = m.stats.errors.length := by
  intro j
  have hj : j.tree.WellFormed := by
    refine ⟨by decide, by decide, by decide, by decide, by decide, by decide, trivial⟩
  obtain ⟨-, -, -, ⟨m, hsteps, hended⟩, -⟩ := run_any_schedule j hj {} .refl
  obtain ⟨-, hrefused, hmoment, -, -, hend⟩ := run_any_schedule j hj {} hsteps
  have hstage : m.stage = .scanning := by
    obtain ⟨fault, hfault⟩ | ⟨hstage, -⟩ := hended
    · cases hrefused fault hfault
    · exact hstage
  obtain ⟨_, -, -, -, -, -, -, -, -, hprocessed, hfiles, -⟩ := hend hstage hended
  have hcount : j.files.countP (fun f => (j.scanner.profileFor? f.1).isSome) = 2 := by
    decide +kernel
  have hlength : j.files.length = 3 := by decide +kernel
  refine ⟨hj, m, hsteps, hended, by omega, by omega, (hmoment hstage).2⟩

end Scanner

end DeclIndex
