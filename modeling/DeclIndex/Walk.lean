import DeclIndex.Directory
import DeclIndex.Exclude
import DeclIndex.Order

/-!
# Walks

The files below a directory, in order: those of the directory itself by name, then those of each
directory inside by name. Directories that are not kept are not entered.

## Main definitions

* `Found` — a file that a walk comes to.
* `Directory.found` — the files that a walk comes to.
* `Directory.walk` — the same below a path, with their paths.
-/

namespace DeclIndex

/-- A file that a walk comes to, with the names that lead to it. -/
structure Found where
  names : List Text
  file : File
  deriving DecidableEq, Repr

/-- What a walk keeps of one directory: its files by name, and for each directory inside the files
below it. -/
structure Kept where
  files : List (Text × Found) := []
  insides : List (Text × List Found) := []

namespace Kept

/-- By name. -/
def byName {α : Type} (entries : List (Text × α)) : List (Text × α) :=
  sortBy (fun a b => Text.before a.1 b.1) entries

/-- The files in the order of the walk. -/
def inOrder (k : Kept) : List Found :=
  (byName k.files).map (·.2) ++ (byName k.insides).flatMap (·.2)

end Kept

namespace Directory

/-- What a walk keeps of the directory that the names `above` lead to. -/
def kept (keeps : List Text → Bool) : List Text → Directory → Kept
  | _, .empty => {}
  | above, .file name f others =>
    let rest := kept keeps above others
    if keeps (above ++ [name]) then
      { rest with files := (name, ⟨above ++ [name], f⟩) :: rest.files }
    else rest
  | above, .dir name inside others =>
    let rest := kept keeps above others
    if keeps (above ++ [name]) then
      { rest with insides := (name, (kept keeps (above ++ [name]) inside).inOrder) :: rest.insides }
    else rest

/-- The files that a walk comes to. -/
def found (patterns : List Text) (d : Directory) : List Found :=
  (kept (Exclude.keeps patterns) [] d).inOrder

/-- The files that a walk comes to, with their paths below the path of the
directory. -/
def filesBelow (patterns : List Text) (root : Path) (d : Directory) : List (Path × File) :=
  (d.found patterns).map fun f => (root.join f.names, f.file)

/-- The files below a path, with their own paths; none below a path that leads to no directory. -/
def walk (patterns : List Text) (root : Path) (d : Directory) : List (Path × File) :=
  match d.lookup root with
  | .ok (.dir inside) => inside.filesBelow patterns root
  | _ => []

end Directory

end DeclIndex
