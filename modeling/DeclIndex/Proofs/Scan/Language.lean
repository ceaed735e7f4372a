import DeclIndex.Proofs.Registry
import DeclIndex.Proofs.Scan.Account

/-!
# Scans of one language

A scan of one language gives a file to the profile of the language if the suffix of the file is one
of its extensions. A scan of all languages gives the file to the profile that the registry has for
the suffix. If the registry has the profile for each of its own extensions, the two agree on the
files of that profile, so that the first scan is the second one restricted to these files.

## Main definitions

* `Scanner.pathsOf` — the paths of the files that a scan gives to a profile.

## Main results

* `Scanner.claims_iff` — the two ways to find the files of a profile agree.
* `Scanner.tasks_language` — the tasks of a scan of one language.
* `Scanner.run_choose` — a scan of one language is a restriction of the scan of all languages.
-/

namespace DeclIndex

/-! ## Suffixes as extensions -/

/-- A suffix is empty or begins with a dot. -/
lemma Path.suffix_cases (path : Path) : path.suffix = [] ∨ ∃ t, path.suffix = '.' :: t := by
  unfold suffix nameSuffix
  dsimp only
  split
  · exact Or.inl rfl
  · unfold fromLastDot
    dsimp only
    split
    · exact Or.inr ⟨_, rfl⟩
    · exact Or.inl rfl

/-- The normal form of an extension is empty only if the extension is blank. -/
lemma Extension.normalize_ne_nil {e : Text} (he : Text.trim e ≠ []) : normalize e ≠ [] := by
  unfold normalize
  split
  · rename_i hlower
    exact absurd (Text.lower_eq_nil_iff.mp hlower) he
  · split <;> exact List.cons_ne_nil _ _

/-- A profile that a registry finds for an extension has it. -/
lemma Registry.hasExtension_of_ofExtension? {ps : List Profile} {e : Text} {p : Profile}
    (h : (empty.registerAll ps).ofExtension? e = some p) :
    p.hasExtension (Extension.normalize e) = true := by
  rw [(followsLast_registerAll ps).ofExtension?, lastSuch?] at h
  exact List.find?_some (p := fun q : Profile => q.hasExtension (Extension.normalize e)) h

namespace Scanner

/-- Whether a profile claims an extension, in terms of its extensions in normal form. -/
lemma claims_eq_true_iff (p : Profile) (extension : Text) :
    claims p extension = true ↔ extension ≠ [] ∧ p.hasExtension extension = true := by
  simp [claims, Profile.hasExtension]

variable {s : Scanner} {ps : List Profile} {p : Profile}

/-- **The two ways to find the files of a profile agree.** In a registry that has a profile for each
of its own extensions, the profile claims the suffix of a file exactly if the registry has it for
that suffix.

**Proof sketch.** The registry looks a suffix up by its normal form. What it finds there is the last
profile with that extension, and the normal form of a suffix that is not empty begins with a dot. -/
lemma claims_iff (hs : s.registry = Registry.empty.registerAll ps)
    (hown : ∀ e ∈ p.extensions, s.registry.ofExtension? e = some p) (path : Path) :
    claims p (Extension.normalize path.suffix) = true ↔
      s.registry.ofSuffix? path.suffix = some p := by
  rw [claims_eq_true_iff, Registry.ofSuffix?]
  constructor
  · rintro ⟨hne, hhas⟩
    have hsuffix : path.suffix ≠ [] := by
      intro hnil
      rw [hnil] at hne
      exact hne rfl
    obtain ⟨e, he, hnormal⟩ : ∃ e ∈ p.extensions,
        Extension.normalize e = Extension.normalize path.suffix := by
      simpa [Profile.hasExtension] using hhas
    rw [if_neg (by simpa using hsuffix), Registry.ofExtension?, ← hnormal]
    exact hown e he
  · intro hfound
    rcases path.suffix_cases with hnil | ⟨t, ht⟩
    · rw [hnil] at hfound
      cases hfound
    · rw [if_neg (by simp [ht]), hs] at hfound
      refine ⟨Extension.normalize_ne_nil ?_, Registry.hasExtension_of_ofExtension? hfound⟩
      rw [ht]
      exact Text.trim_cons_ne_nil (by decide) t

/-! ## Tasks of one language -/

section

open scoped Classical

/-- The paths of the files that a scan gives to a profile. -/
noncomputable def pathsOf (s : Scanner) (p : Profile) (files : List (Path × File)) : List Text :=
  (files.filter fun f => s.profileFor? f.1 = some p).map fun f => f.1.text

/-- The profile of a file in a scan of one language: that of the language, if a scan of all
languages gives the file to it. -/
lemma profileFor?_language (hs : s.registry = Registry.empty.registerAll ps)
    (hall : s.language = none) (hown : ∀ e ∈ p.extensions, s.registry.ofExtension? e = some p)
    (path : Path) :
    { s with language := some p }.profileFor? path =
      if s.profileFor? path = some p then some p else none := by
  have hagree := claims_iff hs hown path
  simp only [profileFor?, hall, ← hagree]

/-- The files of a profile are told by their suffixes. -/
lemma pathsOf_eq_filter_claims (hs : s.registry = Registry.empty.registerAll ps)
    (hall : s.language = none) (hown : ∀ e ∈ p.extensions, s.registry.ofExtension? e = some p)
    (files : List (Path × File)) :
    s.pathsOf p files =
      (files.filter fun f => claims p (Extension.normalize f.1.suffix)).map fun f => f.1.text := by
  rw [pathsOf]
  congr 1
  refine List.filter_congr fun f _ => ?_
  rw [Bool.eq_iff_iff, claims_iff hs hown, decide_eq_true_eq, profileFor?, hall]

/-- **The tasks of a scan of one language** are those of the scan of all languages that have its
profile. -/
lemma tasks_language (hs : s.registry = Registry.empty.registerAll ps) (hall : s.language = none)
    (hown : ∀ e ∈ p.extensions, s.registry.ofExtension? e = some p)
    (files : List (Path × File)) :
    { s with language := some p }.tasks files =
      (s.tasks files).filter fun t => t.profile = p := by
  rw [tasks, tasks, List.filter_filterMap]
  congr 1
  funext f
  rw [task?, task?, profileFor?_language hs hall hown]
  cases hprofile : s.profileFor? f.1 with
  | none => rfl
  | some q =>
    by_cases hq : q = p <;> simp [hq, Option.filter_some]

/-- A task is one of those with a profile if its path is the path of a file that is given to the
profile. -/
lemma mem_pathsOf_iff {files : List (Path × File)} (hfiles : (files.map fun f => f.1.text).Nodup)
    {t : Task} (ht : t ∈ s.tasks files) (p : Profile) :
    t.path.text ∈ s.pathsOf p files ↔ t.profile = p := by
  obtain ⟨f, hf, htask⟩ := List.mem_filterMap.mp ht
  obtain ⟨q, hq, rfl⟩ := Option.map_eq_some_iff.mp htask
  rw [pathsOf, List.mem_map]
  constructor
  · rintro ⟨g, hg, htext⟩
    obtain ⟨hmem, hgiven⟩ := List.mem_filter.mp hg
    obtain rfl : g = f := List.inj_on_of_nodup_map hfiles hmem hf htext
    rw [hq] at hgiven
    simpa using hgiven
  · rintro rfl
    exact ⟨f, List.mem_filter.mpr ⟨hf, by simpa using hq⟩, rfl⟩

/-- What comes of some tasks, if it tells their paths, can be chosen by the paths. -/
lemma filterMap_filter_of_path {α : Type} (add : Task → Option α) (key : α → Text)
    (hkey : ∀ t a, add t = some a → key a = t.path.text) (paths : List Text) (p : Profile)
    {l : List Task} (hl : ∀ t ∈ l, (t.path.text ∈ paths ↔ t.profile = p)) :
    (l.filter fun t => t.profile = p).filterMap add =
      (l.filterMap add).filter fun a => key a ∈ paths := by
  rw [List.filterMap_filter, List.filter_filterMap]
  refine List.filterMap_congr fun t ht => ?_
  cases hadd : add t with
  | none => simp
  | some a =>
    have hmem : key a ∈ paths ↔ t.profile = p := by
      rw [hkey t a hadd]
      exact hl t ht
    rw [Option.filter_some]
    simp only [decide_eq_true_eq, hmem]

end

/-- The error of a task tells its path. -/
lemma fst_of_failure? {t : Task} {e : Text × Text} (h : t.failure? s = some e) :
    e.1 = t.path.text := by
  unfold Task.failure? at h
  split at h
  · cases h
    rfl
  · cases h

/-- The outlines of a scan of one language, among those of the tasks of a scan. -/
lemma outlines_language (hs : s.registry = Registry.empty.registerAll ps)
    (hall : s.language = none) (hown : ∀ e ∈ p.extensions, s.registry.ofExtension? e = some p)
    {files : List (Path × File)} (hfiles : (files.map fun f => f.1.text).Nodup) :
    sortBy (fun a b => Text.before a.path b.path)
        (({ s with language := some p }.tasks files).filterMap
          (Task.outline? { s with language := some p })) =
      (sortBy (fun a b => Text.before a.path b.path)
        ((s.tasks files).filterMap (Task.outline? s))).filter
          fun o => o.path ∈ s.pathsOf p files := by
  rw [filter_sortBy_text Outline.path _ (nodup_outlines s hfiles), tasks_language hs hall hown]
  congr 1
  exact filterMap_filter_of_path (Task.outline? s) Outline.path
    (fun t o => path_of_outline? s) _ p fun t ht => mem_pathsOf_iff hfiles ht p

/-- The errors of a scan of one language, among those of the tasks of a scan. -/
lemma failures_language (hs : s.registry = Registry.empty.registerAll ps)
    (hall : s.language = none) (hown : ∀ e ∈ p.extensions, s.registry.ofExtension? e = some p)
    {files : List (Path × File)} (hfiles : (files.map fun f => f.1.text).Nodup) :
    ({ s with language := some p }.tasks files).filterMap
        (Task.failure? { s with language := some p }) =
      ((s.tasks files).filterMap (Task.failure? s)).filter
        fun e => e.1 ∈ s.pathsOf p files := by
  rw [tasks_language hs hall hown]
  exact filterMap_filter_of_path (Task.failure? s) (·.1) (fun t e => fst_of_failure?) _ p
    fun t ht => mem_pathsOf_iff hfiles ht p

/-! ## Runs of one language -/

/-- The account of a run as a function. -/
lemma account_of_run {d : Directory} (hd : d.WellFormed) {root : Path} {all : List Outline}
    {counts : Stats} (h : s.run d root = .ok (all, counts)) :
    ((d.walk s.exclude root).map fun f => f.1.text).Nodup ∧
      all = sortBy (fun a b => Text.before a.path b.path)
        ((s.tasks (d.walk s.exclude root)).filterMap (Task.outline? s)) ∧
      counts.errors = (s.tasks (d.walk s.exclude root)).filterMap (Task.failure? s) ∧
      counts.processed + counts.skipped = (d.walk s.exclude root).length := by
  obtain ⟨inside, hroot⟩ : ∃ inside, rootOf d root = .ok inside := by
    cases hroot : rootOf d root with
    | error fault => simp [run, hroot] at h
    | ok inside => exact ⟨inside, rfl⟩
  have hrun := run_eq_tasks (j := ⟨s, 1, d, root⟩) hroot
  rw [h] at hrun
  cases hrun
  have htotal : ((s.tasks (d.walk s.exclude root)).length : Int) +
      s.skipped (d.walk s.exclude root) = (d.walk s.exclude root).length := by
    exact_mod_cast length_tasks_add_skipped s (d.walk s.exclude root)
  exact ⟨nodup_files (j := ⟨s, 1, d, root⟩) hd hroot, rfl, rfl, htotal⟩

/-- The account of a run that has ended, whatever the schedule. -/
lemma account_at_end {workers : Int} {d : Directory} (hd : d.WellFormed) {root : Path}
    {previous : Stats} {m : Progress} (hm : Steps ⟨s, workers, d, root⟩ (.start previous) m)
    (hstage : m.stage = .scanning) (hended : m.Ended) :
    ((d.walk s.exclude root).map fun f => f.1.text).Nodup ∧
      m.returned = sortBy (fun a b => Text.before a.path b.path)
        ((s.tasks (d.walk s.exclude root)).filterMap (Task.outline? s)) ∧
      m.stats.errors.Perm ((s.tasks (d.walk s.exclude root)).filterMap (Task.failure? s)) ∧
      m.stats.processed + m.stats.skipped = (d.walk s.exclude root).length := by
  have hreached := reached_of_steps hm
  obtain ⟨inside, hroot⟩ := hreached.accepted hstage
  have hconsistent := hreached.consistent hstage
  have hfiles := nodup_files hd hroot
  obtain ⟨fault, hfault⟩ | ⟨-, hend⟩ := hended
  · rw [hstage] at hfault
    cases hfault
  obtain ⟨hprocessed, -, -, hskipped, herrors⟩ := hconsistent.counts_at_end hend
  have htotal := length_tasks_add_skipped s (d.walk s.exclude root)
  refine ⟨hfiles, ?_, herrors, ?_⟩
  · exact (sortBy_text_eq_of_perm Outline.path (hconsistent.results_at_end hend)
      (nodup_outlines s hfiles)).symm
  · rw [hprocessed, hskipped]
    exact_mod_cast htotal

/-- **A scan of one language is a restriction of the scan of all languages.** Take a registry, made
by registering profiles, in which a name finds a profile that the registry has for each of its
extensions. In every tree, with the same patterns and the same limit, the scan that has chosen the
language by that name is refused exactly if the scan of all languages is. Otherwise it returns those
outlines of the scan of all languages that come from files given to the profile there, unchanged and
in the same order. Its errors are the errors of these files, and the two scans process or skip
equally many files.

The same is true at the end of any two runs with any numbers of workers and any schedules, but for
the order of the errors.

**Proof sketch.** The tasks of the first scan are those of the second that have the profile
(`tasks_language`), and what becomes of a task does not depend on the language. Paths of files are
distinct, so that choosing tasks is choosing paths, and choosing may change places with sorting. In
either scan every file that the walk comes to is processed or skipped. -/
theorem run_choose (hs : s.registry = Registry.empty.registerAll ps) (hall : s.language = none)
    {name : Text} (hname : name ≠ []) (hp : s.registry.ofLanguage name = .ok p)
    (hown : ∀ e ∈ p.extensions, s.registry.ofExtension? e = some p) {d : Directory}
    (hd : d.WellFormed) (root : Path) :
    ∃ t, s.choose name = .ok t ∧
      (∀ fault, t.run d root = .error fault ↔ s.run d root = .error fault) ∧
      (∀ all counts, s.run d root = .ok (all, counts) → ∃ own,
        t.run d root =
          .ok (all.filter fun o => o.path ∈ s.pathsOf p (d.walk s.exclude root), own) ∧
        own.errors = counts.errors.filter (fun e => e.1 ∈ s.pathsOf p (d.walk s.exclude root)) ∧
        own.processed + own.skipped = counts.processed + counts.skipped) ∧
      ∀ workers workers' previous previous' m n,
        Steps ⟨s, workers, d, root⟩ (.start previous) m → m.stage = .scanning → m.Ended →
        Steps ⟨t, workers', d, root⟩ (.start previous') n → n.stage = .scanning → n.Ended →
        n.returned = m.returned.filter (fun o => o.path ∈ s.pathsOf p (d.walk s.exclude root)) ∧
        n.stats.errors.Perm
          (m.stats.errors.filter fun e => e.1 ∈ s.pathsOf p (d.walk s.exclude root)) ∧
        n.stats.processed + n.stats.skipped = m.stats.processed + m.stats.skipped := by
  have hchoose : s.choose name = .ok { s with language := some p } := by
    rw [choose, if_neg (by simpa using hname), hp]
  refine ⟨_, hchoose, fun fault => ?_, fun all counts hrun => ?_, ?_⟩
  · unfold run
    cases rootOf d root <;> simp
  · obtain ⟨hfiles, hall', herrors, htotal⟩ := account_of_run hd hrun
    obtain ⟨some', own, hown'⟩ : ∃ some' own,
        { s with language := some p }.run d root = .ok (some', own) := by
      unfold run at hrun ⊢
      cases hroot : rootOf d root with
      | error fault => simp [hroot] at hrun
      | ok inside => exact ⟨_, _, rfl⟩
    obtain ⟨-, hsome, herrors', htotal'⟩ := account_of_run hd hown'
    refine ⟨own, ?_, ?_, htotal'.trans htotal.symm⟩
    · rw [hown', hsome, hall', outlines_language hs hall hown hfiles]
    · rw [herrors', herrors, failures_language hs hall hown hfiles]
  · intro workers workers' previous previous' m n hm hmstage hmended hn hnstage hnended
    obtain ⟨hfiles, hreturned, herrors, htotal⟩ := account_at_end hd hm hmstage hmended
    obtain ⟨-, hreturned', herrors', htotal'⟩ := account_at_end hd hn hnstage hnended
    refine ⟨?_, ?_, htotal'.trans htotal.symm⟩
    · rw [hreturned, hreturned', outlines_language hs hall hown hfiles]
    · rw [failures_language hs hall hown hfiles] at herrors'
      exact herrors'.trans (herrors.filter _).symm

/-- A tree with two files of Rust, one of which cannot be decoded, and one of Go. -/
theorem run_choose_rust :
    let s : Scanner := {}
    let d : Directory := .file "a.RS" (.readable (Utf8.encode "mod a;"))
      (.file "b.rs" (.readable [0xFF]) (.file "c.go" (.readable (Utf8.encode "package c")) .empty))
    s.registry = Registry.empty.registerAll Language.builtin ∧ s.language = none ∧
      "Rust".toList ≠ [] ∧ s.registry.ofLanguage "Rust".toList = .ok Language.rust ∧
      (∀ e ∈ Language.rust.extensions, s.registry.ofExtension? e = some Language.rust) ∧
      d.WellFormed ∧ ∃ t all counts own, s.choose "Rust".toList = .ok t ∧
        s.run d {} = .ok (all, counts) ∧ all.map Outline.path = ["a.RS".toList, "c.go".toList] ∧
        t.run d {} = .ok (all.filter (fun o => o.path ∈ ["a.RS".toList, "b.rs".toList]), own) ∧
        own.errors = counts.errors.filter (fun e => e.1 ∈ ["a.RS".toList, "b.rs".toList]) ∧
        own.processed + own.skipped = 3 := by
  intro s d
  have hregistry : s.registry = Registry.empty.registerAll Language.builtin := rfl
  have hlanguage : s.registry.ofLanguage "Rust".toList = .ok Language.rust := rfl
  have hown : ∀ e ∈ Language.rust.extensions,
      s.registry.ofExtension? e = some Language.rust :=
    List.forall_mem_singleton.mpr rfl
  have hd : d.WellFormed := ⟨by decide, by decide, by decide, by decide, by decide, by decide,
    trivial⟩
  have hpaths : s.pathsOf Language.rust (d.walk s.exclude {}) =
      ["a.RS".toList, "b.rs".toList] := by
    rw [pathsOf_eq_filter_claims hregistry rfl hown]
    decide +kernel
  obtain ⟨t, hchoose, -, hruns, -⟩ :=
    run_choose hregistry rfl (by decide) hlanguage hown hd {}
  obtain ⟨all, counts, hrun, hall, htotal⟩ : ∃ all counts, s.run d {} = .ok (all, counts) ∧
      all.map Outline.path = ["a.RS".toList, "c.go".toList] ∧
      counts.processed + counts.skipped = 3 :=
    ⟨_, _, rfl, by decide +kernel, by decide +kernel⟩
  obtain ⟨own, hown', herrors, hsame⟩ := hruns all counts hrun
  rw [hpaths] at hown' herrors
  exact ⟨hregistry, rfl, by decide, hlanguage, hown, hd, t, all, counts, own, hchoose, hrun, hall,
    hown', herrors, hsame.trans htotal⟩

end Scanner

end DeclIndex
