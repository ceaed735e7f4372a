import DeclIndex.Directory.Listing
import DeclIndex.Proofs.Path

/-!
# Well-formed directories

In a directory as file systems have it, no name occurs twice and no name holds a slash, and the same
is true of the directories inside. Setting entries keeps a directory well-formed, and so do writing
files and making directories. A directory that is given by listing paths is therefore well-formed.

## Main definitions

* `Directory.names` — the names in a directory itself.
* `Directory.WellFormed` — in each directory the names are distinct and hold no slash.

## Main results

* `Directory.WellFormed.write`, `Directory.WellFormed.makeDir` — changes keep it well-formed.
* `Directory.wellFormed_ofValue` — a directory that is given by a list of paths is well-formed.
-/

namespace DeclIndex

namespace Directory

/-- The names in a directory itself. -/
def names : Directory → List Text
  | .empty => []
  | .file name _ others => name :: names others
  | .dir name _ others => name :: names others

/-- In each directory the names are distinct and hold no slash. -/
def WellFormed : Directory → Prop
  | .empty => True
  | .file name _ others => '/' ∉ name ∧ name ∉ others.names ∧ WellFormed others
  | .dir name inside others =>
    '/' ∉ name ∧ name ∉ others.names ∧ WellFormed inside ∧ WellFormed others

/-- An entry is well-formed if it is a file or a well-formed directory. -/
def Entry.WellFormed : Entry → Prop
  | .file _ => True
  | .dir inside => inside.WellFormed

/-- Setting an entry adds no other name. -/
lemma mem_names_of_mem_set {name m : Text} {entry : Entry} {d : Directory}
    (h : m ∈ (d.set name entry).names) : m = name ∨ m ∈ d.names := by
  induction d with
  | empty =>
    cases entry with
    | file f => exact .inl (List.mem_singleton.mp h)
    | dir inside => exact .inl (List.mem_singleton.mp h)
  | file n f others ih =>
    rw [set] at h
    split at h
    · cases entry with
      | file f => exact (List.mem_cons.mp h).imp_right (List.mem_cons_of_mem _)
      | dir inside => exact (List.mem_cons.mp h).imp_right (List.mem_cons_of_mem _)
    · rcases List.mem_cons.mp h with rfl | h
      · exact .inr List.mem_cons_self
      · exact (ih h).imp_right (List.mem_cons_of_mem _)
  | dir n inside others _ ih =>
    rw [set] at h
    split at h
    · cases entry with
      | file f => exact (List.mem_cons.mp h).imp_right (List.mem_cons_of_mem _)
      | dir inside => exact (List.mem_cons.mp h).imp_right (List.mem_cons_of_mem _)
    · rcases List.mem_cons.mp h with rfl | h
      · exact .inr List.mem_cons_self
      · exact (ih h).imp_right (List.mem_cons_of_mem _)

namespace WellFormed

variable {d : Directory}

/-- A well-formed entry under a new name makes a well-formed directory. -/
lemma cons {name : Text} {entry : Entry} (hslash : '/' ∉ name) (hname : name ∉ d.names)
    (hentry : entry.WellFormed) (hd : d.WellFormed) : (Directory.cons name entry d).WellFormed := by
  cases entry with
  | file f => exact ⟨hslash, hname, hd⟩
  | dir inside => exact ⟨hslash, hname, hentry, hd⟩

/-- Setting a well-formed entry keeps a directory well-formed. -/
lemma set {name : Text} {entry : Entry} (hslash : '/' ∉ name) (hentry : entry.WellFormed)
    (hd : d.WellFormed) : (d.set name entry).WellFormed := by
  induction d with
  | empty => exact cons hslash List.not_mem_nil hentry trivial
  | file n f others ih =>
    obtain ⟨hn, hfresh, hothers⟩ := hd
    rw [Directory.set]
    split
    · rename_i heq
      exact cons hslash (heq ▸ hfresh) hentry hothers
    · rename_i hne
      refine ⟨hn, fun hmem => ?_, ih hothers⟩
      exact (mem_names_of_mem_set hmem).elim hne hfresh
  | dir n inside others _ ih =>
    obtain ⟨hn, hfresh, hinside, hothers⟩ := hd
    rw [Directory.set]
    split
    · rename_i heq
      exact cons hslash (heq ▸ hfresh) hentry hothers
    · rename_i hne
      refine ⟨hn, fun hmem => ?_, hinside, ih hothers⟩
      exact (mem_names_of_mem_set hmem).elim hne hfresh

/-- What a well-formed directory holds is well-formed. -/
lemma get? {name : Text} {entry : Entry} (hd : d.WellFormed) (h : d.get? name = some entry) :
    entry.WellFormed := by
  induction d with
  | empty => cases h
  | file n f others ih =>
    rw [Directory.get?] at h
    split at h
    · cases h
      exact trivial
    · exact ih hd.2.2 h
  | dir n inside others _ ih =>
    rw [Directory.get?] at h
    split at h
    · cases h
      exact hd.2.2.1
    · exact ih hd.2.2.2 h

/-- The directory inside under a name is well-formed. -/
lemma insideD (hd : d.WellFormed) (name : Text) : (d.insideD name).WellFormed := by
  unfold Directory.insideD
  split
  · rename_i inside h
    exact hd.get? h
  · exact trivial

/-- Writing a file keeps a directory well-formed. -/
theorem write (content : Bytes) {names : List Text} (hnames : ∀ n ∈ names, '/' ∉ n)
    (hd : d.WellFormed) : (d.write content names).WellFormed := by
  induction names generalizing d with
  | nil => exact hd
  | cons name rest ih =>
    obtain ⟨hname, hrest⟩ := List.forall_mem_cons.mp hnames
    cases rest with
    | nil => exact hd.set hname trivial
    | cons next rest => exact hd.set hname (ih hrest (hd.insideD name))

/-- Making directories keeps a directory well-formed. -/
theorem makeDir {names : List Text} (hnames : ∀ n ∈ names, '/' ∉ n) (hd : d.WellFormed) :
    (d.makeDir names).WellFormed := by
  induction names generalizing d with
  | nil => exact hd
  | cons name rest ih =>
    obtain ⟨hname, hrest⟩ := List.forall_mem_cons.mp hnames
    exact hd.set hname (ih hrest (hd.insideD name))

/-- What some names lead to in a well-formed directory is well-formed. -/
lemma descend {names : List Text} {entry : Entry} (hd : d.WellFormed)
    (h : d.descend names = .ok entry) : entry.WellFormed := by
  induction names generalizing d with
  | nil =>
    cases h
    exact hd
  | cons name rest ih =>
    rw [Directory.descend] at h
    split at h
    · cases h
    · rename_i inside hinside
      exact ih (hd.get? hinside) h
    · split at h
      · cases h
        exact trivial
      · cases h

/-- What a path leads to in a well-formed directory is well-formed. -/
theorem lookup {p : Path} {entry : Entry} (hd : d.WellFormed) (h : d.lookup p = .ok entry) :
    entry.WellFormed := by
  unfold Directory.lookup at h
  split at h
  · split at h
    · cases h
    · exact hd.descend h
  · cases h

end WellFormed

/-- **Directories that are given are well-formed.** A directory that is given by listing its paths
is well-formed, whatever the paths. -/
theorem wellFormed_ofValue (v : Value) : (ofValue v).WellFormed := by
  have hadd : ∀ (d : Directory) (f : Text × Value), d.WellFormed → (d.add f.1 f.2).WellFormed := by
    intro d f hd
    have hnames : ∀ n ∈ (Path.ofText f.1).names, '/' ∉ n := fun _ => Path.not_mem_of_mem_ofText
    unfold add
    split
    · exact hd.makeDir hnames
    · exact hd.write _ hnames
    · exact hd.write _ hnames
  have hall : ∀ (fields : List (Text × Value)) (d : Directory), d.WellFormed →
      (d.addAll (.object fields)).WellFormed := by
    intro fields
    induction fields with
    | nil => exact fun d hd => hd
    | cons f fields ih => exact fun d hd => ih (d.add f.1 f.2) (hadd d f hd)
  cases v with
  | object fields => exact hall fields .empty trivial
  | _ => exact trivial

end Directory

end DeclIndex
