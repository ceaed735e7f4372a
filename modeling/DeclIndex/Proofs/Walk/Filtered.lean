import DeclIndex.Proofs.Order
import DeclIndex.Proofs.Walk

/-!
# The walk as a filter

A walk does not enter a directory that it does not keep. What it comes to are therefore the files
all of whose beginnings are kept: the directories on the way and the file itself. This is more than
that the file is not excluded, since a pattern with a star can match a directory and nothing below
it. Without such patterns a path is excluded as soon as one of its beginnings is.

The order of a walk is the order of the places: where the ways to two files part, a file that stands
there comes before one further inside, and otherwise the name decides.

## Main definitions

* `Found.Precedes` — the order of two files by where they stand.
* `Directory.Reaches` — the files that are reached over directories that are kept.
* `Directory.IsBelow` — what a walk keeps of a directory, by names and in order.

## Main results

* `Directory.mem_kept_iff` — the files that a walk comes to.
* `Directory.isBelow_kept`, `Directory.IsBelow.pairwise_inOrder` — their order.
* `Directory.found_eq_filtered_tree` — both for a walk with patterns, below any path.
-/

namespace DeclIndex

/-- Where the ways to two files part, the first stands there and the second further inside, or both
stand there or both further inside and the name of the first comes before. -/
def Found.Precedes (f g : Found) : Prop :=
  ∃ above m n more rest, f.names = above ++ m :: more ∧ g.names = above ++ n :: rest ∧
    ((more = [] ∧ rest ≠ []) ∨ ((more = [] ↔ rest = []) ∧ Text.before m n = true))

namespace Directory

variable {keeps : List Text → Bool} {d inside others : Directory} {f : Found} {above : List Text}

/-! ## Where files stand -/

/-- Under a name that a directory does not have, it holds nothing. -/
lemma get?_eq_none {name : Text} (h : name ∉ d.names) : d.get? name = none := by
  induction d with
  | empty => rfl
  | file n file others ih =>
    obtain ⟨hn, hothers⟩ := not_or.mp (mt List.mem_cons.mpr h)
    rw [get?, if_neg (Ne.symm hn), ih hothers]
  | dir n inside others _ ih =>
    obtain ⟨hn, hothers⟩ := not_or.mp (mt List.mem_cons.mpr h)
    rw [get?, if_neg (Ne.symm hn), ih hothers]

/-- A directory leads to itself only without a name. -/
lemma exists_cons_of_descend {more : List Text} {file : File}
    (h : d.descend more = .ok (.file file)) : ∃ n rest, more = n :: rest ∧ n ∈ d.names := by
  cases more with
  | nil => cases h
  | cons n rest =>
    refine ⟨n, rest, rfl, ?_⟩
    by_contra hn
    rw [descend, get?_eq_none hn] at h
    cases h

/-- With one more file, a directory leads to the same under any other name. -/
lemma descend_file_of_ne {name n : Text} (h : name ≠ n) (file : File) (rest : List Text) :
    (Directory.file name file others).descend (n :: rest) = others.descend (n :: rest) := by
  rw [descend, get?, if_neg h, descend]

/-- With one more directory inside, a directory leads to the same under any other name. -/
lemma descend_dir_of_ne {name n : Text} (h : name ≠ n) (rest : List Text) :
    (Directory.dir name inside others).descend (n :: rest) = others.descend (n :: rest) := by
  rw [descend, get?, if_neg h, descend]

/-- A file is reached from a directory that the names `above` lead to, if every beginning of the way
that goes on from there is kept. -/
def Reaches (keeps : List Text → Bool) (above : List Text) (d : Directory) (f : Found) : Prop :=
  ∃ more, f.names = above ++ more ∧ d.descend more = .ok (.file f.file) ∧
    ∀ start, start ≠ [] → start <+: more → keeps (above ++ start) = true

/-- Of an empty directory no file is reached. -/
lemma not_reaches_empty : ¬ Reaches keeps above .empty f := by
  rintro ⟨more, -, hfile, -⟩
  obtain ⟨n, rest, -, hn⟩ := exists_cons_of_descend hfile
  exact absurd hn List.not_mem_nil

/-- The beginnings of a way are its first name and the beginnings that go on. -/
lemma forall_start_cons_iff {name : Text} {more : List Text} :
    (∀ start, start ≠ [] → start <+: name :: more → keeps (above ++ start) = true) ↔
      keeps (above ++ [name]) = true ∧
        ∀ start, start ≠ [] → start <+: more → keeps (above ++ [name] ++ start) = true := by
  constructor
  · intro h
    refine ⟨h [name] (by simp) (by simp), fun start _ hstart => ?_⟩
    rw [List.append_assoc]
    exact h (name :: start) (by simp) (List.cons_prefix_cons.mpr ⟨rfl, hstart⟩)
  · rintro ⟨hname, hmore⟩ start hne hstart
    rcases List.prefix_cons_iff.mp hstart with rfl | ⟨tail, rfl, htail⟩
    · exact absurd rfl hne
    · cases tail with
      | nil => exact hname
      | cons n tail =>
        have hkeeps := hmore (n :: tail) (by simp) htail
        rwa [List.append_assoc] at hkeeps

/-- Of a directory with one more file, that file is reached if it is kept, and the others as
before. -/
lemma reaches_file_iff {name : Text} {file : File} (hname : name ∉ others.names) :
    Reaches keeps above (.file name file others) f ↔
      (f = ⟨above ++ [name], file⟩ ∧ keeps (above ++ [name]) = true) ∨
        Reaches keeps above others f := by
  constructor
  · rintro ⟨more, hnames, hfile, hkeeps⟩
    obtain ⟨n, rest, rfl, -⟩ := exists_cons_of_descend hfile
    by_cases hn : name = n
    · -- A file is the end of a way, so that nothing comes after its name.
      subst hn
      rw [descend, get?, if_pos rfl] at hfile
      dsimp only at hfile
      split at hfile
      · rename_i hrest
        obtain rfl := List.isEmpty_iff.mp hrest
        refine .inl ⟨?_, hkeeps [name] (by simp) List.prefix_rfl⟩
        cases f
        cases hfile
        cases hnames
        rfl
      · cases hfile
    · exact .inr ⟨n :: rest, hnames, descend_file_of_ne hn file rest ▸ hfile, hkeeps⟩
  · rintro (⟨rfl, hkeeps⟩ | ⟨more, hnames, hfile, hkeeps⟩)
    · refine ⟨[name], rfl, ?_, forall_start_cons_iff.mpr ⟨hkeeps, ?_⟩⟩
      · rw [descend, get?, if_pos rfl]
        rfl
      · intro start hne hstart
        exact absurd (List.prefix_nil.mp hstart) hne
    · obtain ⟨n, rest, rfl, hn⟩ := exists_cons_of_descend hfile
      have hne : name ≠ n := (ne_of_mem_of_not_mem hn hname).symm
      exact ⟨n :: rest, hnames, (descend_file_of_ne hne file rest).trans hfile, hkeeps⟩

/-- Of a directory with one more directory inside, what is inside is reached if that directory is
kept, and the others as before. -/
lemma reaches_dir_iff {name : Text} (hname : name ∉ others.names) :
    Reaches keeps above (.dir name inside others) f ↔
      (keeps (above ++ [name]) = true ∧ Reaches keeps (above ++ [name]) inside f) ∨
        Reaches keeps above others f := by
  constructor
  · rintro ⟨more, hnames, hfile, hkeeps⟩
    obtain ⟨n, rest, rfl, -⟩ := exists_cons_of_descend hfile
    by_cases hn : name = n
    · subst hn
      rw [descend, get?, if_pos rfl] at hfile
      obtain ⟨hkeeps, hrest⟩ := forall_start_cons_iff.mp hkeeps
      exact .inl ⟨hkeeps, rest, by simp [hnames], hfile, hrest⟩
    · exact .inr ⟨n :: rest, hnames, descend_dir_of_ne hn rest ▸ hfile, hkeeps⟩
  · rintro (⟨hkeeps, rest, hnames, hfile, hrest⟩ | ⟨more, hnames, hfile, hkeeps⟩)
    · refine ⟨name :: rest, by simp [hnames], ?_, forall_start_cons_iff.mpr ⟨hkeeps, hrest⟩⟩
      rw [descend, get?, if_pos rfl]
      exact hfile
    · obtain ⟨n, rest, rfl, hn⟩ := exists_cons_of_descend hfile
      have hne : name ≠ n := (ne_of_mem_of_not_mem hn hname).symm
      exact ⟨n :: rest, hnames, (descend_dir_of_ne hne rest).trans hfile, hkeeps⟩

/-- **The files that a walk comes to** are those that are reached.

**Proof sketch.** Induction on the directory. A walk takes up the first entry, if it is kept, and
goes on with the others; the same entries are reached, since no name occurs twice. -/
theorem mem_kept_iff (hd : d.WellFormed) :
    f ∈ (kept keeps above d).inOrder ↔ Reaches keeps above d f := by
  induction d generalizing above with
  | empty => exact iff_of_false List.not_mem_nil not_reaches_empty
  | file name file others ih =>
    obtain ⟨-, hname, hothers⟩ := hd
    rw [reaches_file_iff hname, ← ih hothers, kept]
    split
    · rename_i hkeeps
      rw [(Kept.inOrder_file _ _ _).mem_iff, List.mem_cons, and_iff_left hkeeps]
    · rename_i hkeeps
      rw [or_iff_right fun h => hkeeps h.2]
  | dir name inside others ihInside ih =>
    obtain ⟨-, hname, hinside, hothers⟩ := hd
    rw [reaches_dir_iff hname, ← ih hothers, ← ihInside hinside, kept]
    split
    · rename_i hkeeps
      rw [(Kept.inOrder_inside _ _ _).mem_iff, List.mem_append, and_iff_right hkeeps]
    · rename_i hkeeps
      rw [or_iff_right fun h => hkeeps h.1]

/-! ## The order of a walk -/

/-- What a walk keeps of the directory `d` that the names `above` lead to: the files have the names
of entries, what is inside has longer ones, no name occurs twice, and what is inside is in order. -/
structure IsBelow (above : List Text) (d : Directory) (k : Kept) : Prop where
  files : ∀ e ∈ k.files, e.1 ∈ d.names ∧ e.2.names = above ++ [e.1]
  insides : ∀ e ∈ k.insides, e.1 ∈ d.names ∧
    (∀ f ∈ e.2, ∃ more, more ≠ [] ∧ f.names = above ++ e.1 :: more) ∧
    e.2.Pairwise Found.Precedes
  nodup_files : (k.files.map Prod.fst).Nodup
  nodup_insides : (k.insides.map Prod.fst).Nodup

/-- The files of a directory come in the order of their names, and before those further inside;
these come in the order of the names of the directories inside. -/
lemma IsBelow.pairwise_inOrder {k : Kept} (h : IsBelow above d k) :
    k.inOrder.Pairwise Found.Precedes := by
  have hmem : ∀ {α : Type} {es : List (Text × α)} {e}, e ∈ Kept.byName es ↔ e ∈ es :=
    mem_sortBy _ _ _
  refine List.pairwise_append.mpr ⟨?_, ?_, fun f hf g hg => ?_⟩
  · refine List.pairwise_map.mpr ((pairwise_sortBy_text Prod.fst h.nodup_files).imp_of_mem ?_)
    intro a b ha hb hab
    exact ⟨above, a.1, b.1, [], [], (h.files a (hmem.mp ha)).2, (h.files b (hmem.mp hb)).2,
      .inr ⟨Iff.rfl, hab⟩⟩
  · refine List.pairwise_flatMap.mpr ⟨fun e he => (h.insides e (hmem.mp he)).2.2, ?_⟩
    refine (pairwise_sortBy_text Prod.fst h.nodup_insides).imp_of_mem ?_
    intro a b ha hb hab f hf g hg
    obtain ⟨more, hmore, hfn⟩ := (h.insides a (hmem.mp ha)).2.1 f hf
    obtain ⟨rest, hrest, hgn⟩ := (h.insides b (hmem.mp hb)).2.1 g hg
    exact ⟨above, a.1, b.1, more, rest, hfn, hgn, .inr ⟨iff_of_false hmore hrest, hab⟩⟩
  · obtain ⟨a, ha, rfl⟩ := List.mem_map.mp hf
    obtain ⟨b, hb, hg⟩ := List.mem_flatMap.mp hg
    obtain ⟨rest, hrest, hgn⟩ := (h.insides b (hmem.mp hb)).2.1 g hg
    exact ⟨above, a.1, b.1, [], rest, (h.files a (hmem.mp ha)).2, hgn, .inl ⟨rfl, hrest⟩⟩

/-- More entries of the directory make no difference to what was kept. -/
lemma IsBelow.mono {k : Kept} (h : IsBelow above others k)
    (hnames : ∀ n ∈ others.names, n ∈ d.names) : IsBelow above d k where
  files e he := ⟨hnames _ (h.files e he).1, (h.files e he).2⟩
  insides e he := ⟨hnames _ (h.insides e he).1, (h.insides e he).2⟩
  nodup_files := h.nodup_files
  nodup_insides := h.nodup_insides

/-- **What a walk keeps of a directory is in order.** -/
lemma isBelow_kept (keeps : List Text → Bool) (hd : d.WellFormed) (above : List Text) :
    IsBelow above d (kept keeps above d) := by
  induction d generalizing above with
  | empty => exact ⟨by simp [kept], by simp [kept], by simp [kept], by simp [kept]⟩
  | file name file others ih =>
    obtain ⟨-, hname, hothers⟩ := hd
    have hrest := (ih hothers above).mono (d := .file name file others)
      fun n hn => List.mem_cons_of_mem _ hn
    rw [kept]
    split
    · refine ⟨List.forall_mem_cons.mpr ⟨⟨List.mem_cons_self, rfl⟩, hrest.files⟩, hrest.insides,
        List.nodup_cons.mpr ⟨fun hmem => ?_, hrest.nodup_files⟩, hrest.nodup_insides⟩
      obtain ⟨e, he, rfl⟩ := List.mem_map.mp hmem
      exact hname ((ih hothers above).files e he).1
    · exact hrest
  | dir name inside others ihInside ih =>
    obtain ⟨-, hname, hinside, hothers⟩ := hd
    have hrest := (ih hothers above).mono (d := .dir name inside others)
      fun n hn => List.mem_cons_of_mem _ hn
    rw [kept]
    split
    · refine ⟨hrest.files, List.forall_mem_cons.mpr ⟨⟨List.mem_cons_self, fun f hf => ?_, ?_⟩,
        hrest.insides⟩, hrest.nodup_files, List.nodup_cons.mpr ⟨fun hmem => ?_,
        hrest.nodup_insides⟩⟩
      · obtain ⟨n, more, hnames, -, -⟩ := names_of_mem_kept hinside hf
        exact ⟨n :: more, List.cons_ne_nil _ _, by simp [hnames]⟩
      · exact (ihInside hinside _).pairwise_inOrder
      · obtain ⟨e, he, rfl⟩ := List.mem_map.mp hmem
        exact hname ((ih hothers above).insides e he).1
    · exact hrest

/-! ## Patterns -/

/-- A path is kept with all its beginnings if none of its names is hidden and none of the beginnings
is excluded. -/
lemma forall_keeps_iff (patterns names : List Text) :
    (∀ start, start ≠ [] → start <+: names → Exclude.keeps patterns start = true) ↔
      (∀ name ∈ names, Exclude.isHidden name = false) ∧
        ∀ start, start ≠ [] → start <+: names →
          Exclude.excludes patterns { names := start } = false := by
  simp only [Exclude.keeps, Bool.and_eq_true, Bool.not_eq_true']
  constructor
  · intro h
    refine ⟨fun name hname => ?_, fun start hne hstart => (h start hne hstart).2⟩
    obtain ⟨init, rest, rfl⟩ := List.append_of_mem hname
    have hstart := (h (init ++ [name]) (by simp) ⟨rest, by simp⟩).1
    rwa [List.getLast?_concat] at hstart
  · rintro ⟨hvisible, hexcludes⟩ start hne hstart
    refine ⟨?_, hexcludes start hne hstart⟩
    rw [List.getLast?_eq_some_getLast hne]
    exact hvisible _ (hstart.subset (List.getLast_mem hne))

/-- A pattern without a star at its start matches the paths that it is a name of. -/
lemma isMatch_eq_true_iff {pattern : Text} (h : pattern.head? ≠ some '*') (names : List Text) :
    Exclude.isMatch { names } pattern = true ↔ pattern ∈ names := by
  unfold Exclude.isMatch
  split
  · exact absurd rfl h
  · exact List.elem_iff

/-- Without a star, a path is excluded as soon as one of its beginnings is. -/
lemma forall_excludes_iff {patterns : List Text}
    (h : ∀ pattern ∈ patterns, pattern.head? ≠ some '*') (names : List Text) :
    (∀ start, start ≠ [] → start <+: names →
      Exclude.excludes patterns { names := start } = false) ↔
      Exclude.excludes patterns { names } = false := by
  simp only [Exclude.excludes, List.any_eq_false]
  constructor
  · intro hstart pattern hpattern hmatch
    have hmem := (isMatch_eq_true_iff (h pattern hpattern) names).mp hmatch
    exact hstart names (List.ne_nil_of_mem hmem) List.prefix_rfl pattern hpattern hmatch
  · intro hnames start _ hstart pattern hpattern hmatch
    have hmem := (isMatch_eq_true_iff (h pattern hpattern) start).mp hmatch
    exact hnames pattern hpattern
      ((isMatch_eq_true_iff (h pattern hpattern) names).mpr (hstart.subset hmem))

/-! ## The walk -/

/-- **A walk comes to the tree without what is left out.** Below every path that leads to a
directory the walk comes to the same files of it, with their names after the path; neither the path
nor what stands elsewhere matters. No two of them have the same path. They are the files of the
directory none of whose names is hidden and no beginning of whose names is excluded, and they come
in the order of their places. If no pattern begins with a star, no beginning is excluded as soon as
the whole is not.

**Proof sketch.** Every file that a walk comes to is reached over directories that are kept, and the
other way round (`mem_kept_iff`). Each directory is sorted by distinct names (`isBelow_kept`). -/
theorem found_eq_filtered_tree (hd : inside.WellFormed) (patterns : List Text) :
    (∀ (d : Directory) (root : Path), d.lookup root = .ok (.dir inside) →
      d.walk patterns root =
          (inside.found patterns).map (fun f => (root.join f.names, f.file)) ∧
        ((d.walk patterns root).map fun f => f.1.text).Nodup) ∧
    (∀ f, f ∈ inside.found patterns ↔
      inside.descend f.names = .ok (.file f.file) ∧
        (∀ name ∈ f.names, Exclude.isHidden name = false) ∧
        ∀ start, start ≠ [] → start <+: f.names →
          Exclude.excludes patterns { names := start } = false) ∧
    (inside.found patterns).Pairwise Found.Precedes ∧
    ((∀ pattern ∈ patterns, pattern.head? ≠ some '*') → ∀ names : List Text,
      (∀ start, start ≠ [] → start <+: names →
        Exclude.excludes patterns { names := start } = false) ↔
        Exclude.excludes patterns { names } = false) := by
  refine ⟨fun d root hroot => ?_, fun f => ?_, ?_, forall_excludes_iff⟩
  · have hwalk : d.walk patterns root = inside.filesBelow patterns root := by
      rw [walk, hroot]
    exact ⟨hwalk, hwalk ▸ nodup_filesBelow hd patterns root⟩
  · rw [found, mem_kept_iff hd, ← forall_keeps_iff]
    constructor
    · rintro ⟨more, hnames, hfile, hkeeps⟩
      obtain rfl : f.names = more := hnames
      exact ⟨hfile, hkeeps⟩
    · rintro ⟨hfile, hkeeps⟩
      exact ⟨f.names, rfl, hfile, hkeeps⟩
  · exact (isBelow_kept _ hd []).pairwise_inOrder

/-- A pattern for the ending of a directory keeps the walk out of it, although it does not match the
file inside; a pattern for a directory above the root makes no difference. -/
theorem found_eq_filtered_tree_of_ending :
    let patterns : List Text := ["build", "*.d"]
    let inside : Directory := .dir "cache.d" (.file "x.rs" (.readable [1]) .empty)
      (.dir "sub" (.file "a.rs" (.readable [2]) .empty)
        (.file "z.rs" (.readable [3]) (.file ".y.rs" (.readable [4]) .empty)))
    let root : Path := { names := ["build", "toy"] }
    inside.WellFormed ∧
      (Directory.dir "build" (.dir "toy" inside .empty) .empty).lookup root = .ok (.dir inside) ∧
      (Directory.dir "build" (.dir "toy" inside .empty) .empty).walk patterns root =
        [({ names := ["build", "toy", "z.rs"] }, .readable [3]),
          ({ names := ["build", "toy", "sub", "a.rs"] }, .readable [2])] ∧
      Exclude.excludes patterns { names := ["cache.d", "x.rs"] } = false ∧
      ⟨["cache.d", "x.rs"], .readable [1]⟩ ∉ inside.found patterns := by
  intro patterns inside root
  have hd : inside.WellFormed := by
    refine ⟨by decide, by decide, ⟨by decide, by decide, trivial⟩, by decide, by decide,
      ⟨by decide, by decide, trivial⟩, by decide, by decide, by decide, by decide, trivial⟩
  obtain ⟨hroot, hmem, -⟩ := found_eq_filtered_tree hd patterns
  refine ⟨hd, rfl, ((hroot _ root rfl).1).trans (by decide), by decide, fun h => ?_⟩
  have hstart := ((hmem _).mp h).2.2 ["cache.d"] (by simp) ⟨["x.rs"], rfl⟩
  exact absurd hstart (by decide)

end Directory

end DeclIndex
