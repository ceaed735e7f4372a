import DeclIndex.Proofs.Directory
import DeclIndex.Walk
import Mathlib.Data.List.Nodup

/-!
# The files of a walk

A walk of a well-formed directory comes to each file once: the files have different names below the
root, and since no name holds a slash, their paths have different texts. This does not depend on the
order of the walk, so it is shown for the files of a directory and those inside its directories
without regard to order.

## Main results

* `Directory.names_of_mem_kept` — what a walk comes to lies below the names of the directory.
* `Directory.nodup_filesBelow` — the paths of a walk are distinct, as texts.
-/

namespace DeclIndex

/-! ## The order of a walk -/

namespace Kept

variable (k : Kept)

/-- The order of a walk, up to rearrangement. -/
lemma inOrder_perm : k.inOrder.Perm (k.files.map (·.2) ++ k.insides.flatMap (·.2)) :=
  List.Perm.append ((sortBy_perm _ k.files).map _) ((sortBy_perm _ k.insides).flatMap_right _)

/-- One more file. -/
lemma inOrder_file (name : Text) (f : Found) :
    ({ k with files := (name, f) :: k.files } : Kept).inOrder.Perm (f :: k.inOrder) :=
  (inOrder_perm _).trans ((inOrder_perm k).symm.cons f)

/-- One more directory inside. -/
lemma inOrder_inside (name : Text) (fs : List Found) :
    ({ k with insides := (name, fs) :: k.insides } : Kept).inOrder.Perm (fs ++ k.inOrder) := by
  refine (inOrder_perm _).trans ?_
  show (k.files.map (·.2) ++ (fs ++ k.insides.flatMap (·.2))).Perm (fs ++ k.inOrder)
  rw [← List.append_assoc]
  refine (List.perm_append_comm.append_right _).trans ?_
  rw [List.append_assoc]
  exact (inOrder_perm k).symm.append_left fs

end Kept

/-! ## The names of a walk -/

namespace Directory

variable {keeps : List Text → Bool}

/-- What a walk comes to lies below a name of the directory, and the names that lead to it hold no
slash. -/
lemma names_of_mem_kept {d : Directory} (hd : d.WellFormed) {above : List Text} {f : Found}
    (hf : f ∈ (kept keeps above d).inOrder) :
    ∃ n more, f.names = above ++ n :: more ∧ n ∈ d.names ∧ ∀ m ∈ n :: more, '/' ∉ m := by
  induction d generalizing above with
  | empty => exact absurd hf List.not_mem_nil
  | file name file others ih =>
    obtain ⟨hslash, -, hothers⟩ := hd
    have hrest : f ∈ (kept keeps above others).inOrder →
        ∃ n more, f.names = above ++ n :: more ∧ n ∈ (Directory.file name file others).names ∧
          ∀ m ∈ n :: more, '/' ∉ m := by
      intro hf
      obtain ⟨n, more, hnames, hn, hmore⟩ := ih hothers hf
      exact ⟨n, more, hnames, List.mem_cons_of_mem _ hn, hmore⟩
    rw [kept] at hf
    split at hf
    · rcases List.mem_cons.mp ((Kept.inOrder_file _ _ _).mem_iff.mp hf) with rfl | hf
      · exact ⟨name, [], rfl, List.mem_cons_self, by simpa using hslash⟩
      · exact hrest hf
    · exact hrest hf
  | dir name inside others ihInside ih =>
    obtain ⟨hslash, -, hinside, hothers⟩ := hd
    have hrest : f ∈ (kept keeps above others).inOrder →
        ∃ n more, f.names = above ++ n :: more ∧ n ∈ (Directory.dir name inside others).names ∧
          ∀ m ∈ n :: more, '/' ∉ m := by
      intro hf
      obtain ⟨n, more, hnames, hn, hmore⟩ := ih hothers hf
      exact ⟨n, more, hnames, List.mem_cons_of_mem _ hn, hmore⟩
    rw [kept] at hf
    split at hf
    · rcases List.mem_append.mp ((Kept.inOrder_inside _ _ _).mem_iff.mp hf) with hf | hf
      · obtain ⟨n, more, hnames, -, hmore⟩ := ihInside hinside hf
        refine ⟨name, n :: more, by rw [hnames]; simp, List.mem_cons_self, ?_⟩
        exact List.forall_mem_cons.mpr ⟨hslash, hmore⟩
      · exact hrest hf
    · exact hrest hf

/-- What a walk comes to does not lie below a name that the directory does not have. -/
lemma not_mem_kept {d : Directory} (hd : d.WellFormed) {name : Text} (hname : name ∉ d.names)
    (above more : List Text) :
    above ++ name :: more ∉ ((kept keeps above d).inOrder.map Found.names) := by
  intro hmem
  obtain ⟨f, hf, hnames⟩ := List.mem_map.mp hmem
  obtain ⟨n, more', hfn, hn, -⟩ := names_of_mem_kept hd hf
  rw [hfn] at hnames
  obtain ⟨rfl, -⟩ := List.cons.inj (List.append_cancel_left hnames)
  exact hname hn

/-- **A walk comes to each place once.** The names that lead to the files of a walk are distinct. -/
theorem nodup_kept (keeps : List Text → Bool) {d : Directory} (hd : d.WellFormed)
    (above : List Text) :
    ((kept keeps above d).inOrder.map Found.names).Nodup := by
  induction d generalizing above with
  | empty => exact List.nodup_nil
  | file name file others ih =>
    obtain ⟨-, hname, hothers⟩ := hd
    rw [kept]
    split
    · rw [((Kept.inOrder_file _ _ _).map Found.names).nodup_iff, List.map_cons, List.nodup_cons]
      exact ⟨not_mem_kept hothers hname above [], ih hothers above⟩
    · exact ih hothers above
  | dir name inside others ihInside ih =>
    obtain ⟨-, hname, hinside, hothers⟩ := hd
    rw [kept]
    split
    · rw [((Kept.inOrder_inside _ _ _).map Found.names).nodup_iff, List.map_append,
        List.nodup_append]
      refine ⟨ihInside hinside _, ih hothers above, fun a ha b hb => ?_⟩
      obtain ⟨f, hf, rfl⟩ := List.mem_map.mp ha
      obtain ⟨n, more, hnames, -, -⟩ := names_of_mem_kept hinside hf
      rintro rfl
      rw [hnames, List.append_assoc] at hb
      exact not_mem_kept hothers hname above (n :: more) hb
    · exact ih hothers above

/-- **The paths of a walk are distinct.** No two files that a walk comes to have paths with the same
text. -/
theorem nodup_filesBelow {d : Directory} (hd : d.WellFormed) (patterns : List Text) (root : Path) :
    ((d.filesBelow patterns root).map fun f => f.1.text).Nodup := by
  have hnames := nodup_kept (Exclude.keeps patterns) hd []
  have hpaths : (d.filesBelow patterns root).map (fun f => f.1.text) =
      ((d.found patterns).map Found.names).map fun ns => (root.join ns).text := by
    simp [filesBelow, Function.comp_def]
  rw [hpaths]
  refine List.Nodup.map_on (fun a ha b hb hab => ?_) hnames
  obtain ⟨f, hf, rfl⟩ := List.mem_map.mp ha
  obtain ⟨g, hg, rfl⟩ := List.mem_map.mp hb
  obtain ⟨n, more, hfn, -, hslash⟩ := names_of_mem_kept hd hf
  obtain ⟨n', more', hgn, -, hslash'⟩ := names_of_mem_kept hd hg
  rw [hfn, hgn] at hab ⊢
  exact Path.eq_of_text_join_eq root (by simp) (by simp) hslash hslash' hab

end Directory

end DeclIndex
