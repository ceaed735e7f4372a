import DeclIndex.Path
import DeclIndex.Text.Utf8

/-!
# Directories

A directory as a value: files with their bytes, and directories inside. Looking up a path follows
its names one after the other, so that it can fail because a name is missing or because it leads
through a file. There are also files that the host does not open, and others of which it does not
even tell the size.

## Main definitions

* `File` — a file, with `File.size` and `File.content`.
* `Directory` — a directory.
* `Directory.get?` — what a directory holds under a name.
* `Directory.lookup` — what a path leads to, or why it leads nowhere.
* `Directory.isThere` — whether a path leads to something.
* `Directory.target` — where a file can be written.
* `Directory.write`, `Directory.makeDir`, `Directory.remove` — the directory after a change.

## Main results

* `Directory.get?_set` — what a directory holds after an entry is set.
-/

namespace DeclIndex

/-- A file: its bytes, or what the host says when it is asked for them. -/
inductive File
  | readable (content : Bytes)
  /-- A file that is not opened. -/
  | closed (size : Nat) (said : Text)
  /-- A file of which not even the size is told. -/
  | lost (said : Text)
  deriving DecidableEq, Repr, Inhabited

namespace File

/-- The size of a file in bytes, or why it is not told. -/
def size : File → Except Text Nat
  | .readable content => .ok content.length
  | .closed size _ => .ok size
  | .lost said => .error said

/-- The bytes of a file, or why they are not to be had. -/
def content : File → Except Text Bytes
  | .readable content => .ok content
  | .closed _ said => .error said
  | .lost said => .error said

end File

/-- A directory: its entries, one after the other. -/
inductive Directory
  | empty
  | file (name : Text) (f : File) (others : Directory)
  | dir (name : Text) (inside others : Directory)
  deriving Repr, Inhabited

namespace Directory

/-- What stands under a name. -/
inductive Entry
  | file (f : File)
  | dir (inside : Directory)
  deriving Repr

/-- Why a path does not lead to what is asked for. -/
inductive Fault
  | missing
  | throughFile
  | isDirectory
  /-- The path leads to a file that the host does not open. -/
  | refused (said : Text)
  deriving DecidableEq, Repr

/-- The words for a fault at a path. -/
def Fault.message (path : Text) : Fault → Text
  | .missing => "[Errno 2] No such file or directory: ".toList ++ Text.quoted path
  | .throughFile => "[Errno 20] Not a directory: ".toList ++ Text.quoted path
  | .isDirectory => "[Errno 21] Is a directory: ".toList ++ Text.quoted path
  | .refused said => said

/-! ### Single names -/

/-- A directory with one more entry at its start. -/
def cons (name : Text) (entry : Entry) (others : Directory) : Directory :=
  match entry with
  | .file f => .file name f others
  | .dir inside => .dir name inside others

/-- What a directory holds under a name. -/
def get? (name : Text) : Directory → Option Entry
  | .empty => none
  | .file n f others => if n = name then some (.file f) else get? name others
  | .dir n inside others => if n = name then some (.dir inside) else get? name others

/-- The directory with an entry set, in the place of one of that name or at the end. -/
def set (name : Text) (entry : Entry) : Directory → Directory
  | .empty => cons name entry .empty
  | .file n f others =>
    if n = name then cons name entry others else .file n f (set name entry others)
  | .dir n inside others =>
    if n = name then cons name entry others else .dir n inside (set name entry others)

@[simp]
theorem get?_cons (m name : Text) (entry : Entry) (others : Directory) :
    (cons name entry others).get? m = if name = m then some entry else others.get? m := by
  cases entry <;> rfl

/-- A name that was set stands for its new entry, all others for theirs. -/
theorem get?_set (m name : Text) (entry : Entry) (d : Directory) :
    (d.set name entry).get? m = if name = m then some entry else d.get? m := by
  induction d with
  | empty => simp [set, get?]
  | file n f others ih =>
    by_cases hn : n = name
    · by_cases h : name = m <;> simp [set, get?, hn, h]
    · by_cases h : n = m
      · have hm : name ≠ m := fun e => hn (h.trans e.symm)
        simp [set, get?, h, hm, hm.symm]
      · simp only [set, hn, if_false, get?, h, ih]
  | dir n inside others _ ih =>
    by_cases hn : n = name
    · by_cases h : name = m <;> simp [set, get?, hn, h]
    · by_cases h : n = m
      · have hm : name ≠ m := fun e => hn (h.trans e.symm)
        simp [set, get?, h, hm, hm.symm]
      · simp only [set, hn, if_false, get?, h, ih]

/-- The directory without the entry of a name. -/
def erase (name : Text) : Directory → Directory
  | .empty => .empty
  | .file n f others => if n = name then others else .file n f (erase name others)
  | .dir n inside others => if n = name then others else .dir n inside (erase name others)

/-- The directory inside under a name, empty if there is none. -/
def insideD (name : Text) (d : Directory) : Directory :=
  match d.get? name with
  | some (.dir inside) => inside
  | _ => .empty

/-! ### Changes -/

/-- The directory with a file written, and the directories on the way to it. -/
def write (content : Bytes) : List Text → Directory → Directory
  | [], d => d
  | [name], d => d.set name (.file (.readable content))
  | name :: rest, d => d.set name (.dir (write content rest (d.insideD name)))

/-- The directory with the directories made that some names lead through. -/
def makeDir : List Text → Directory → Directory
  | [], d => d
  | name :: rest, d => d.set name (.dir (makeDir rest (d.insideD name)))

/-- The directory without the entry that some names lead to. -/
def remove : List Text → Directory → Directory
  | [], d => d
  | [name], d => d.erase name
  | name :: rest, d =>
    match d.get? name with
    | some (.dir inside) => d.set name (.dir (remove rest inside))
    | _ => d

/-! ### Looking up -/

/-- What some names lead to, none of which goes up. -/
def descend : List Text → Directory → Except Fault Entry
  | [], d => .ok (.dir d)
  | name :: rest, d =>
    match d.get? name with
    | none => .error .missing
    | some (.dir inside) => descend rest inside
    | some (.file f) => if rest.isEmpty then .ok (.file f) else .error .throughFile

/-- The names that lead to the same place without going up; `done` holds those before, the last
first. Nothing is known above the directory. -/
def settle (d : Directory) : List Text → List Text → Except Fault (List Text)
  | done, [] => .ok done.reverse
  | done, name :: rest =>
    if name = Path.parentName then
      match d.descend done.reverse, done with
      | .ok (.dir _), _ :: above => settle d above rest
      | .ok (.dir _), [] => .error .missing
      | .ok (.file _), _ => .error .throughFile
      | .error fault, _ => .error fault
    else settle d (name :: done) rest

/-- What a path leads to. Nothing is known of absolute paths. -/
def lookup (d : Directory) (p : Path) : Except Fault Entry :=
  if p.root.isEmpty then
    match settle d [] p.names with
    | .error fault => .error fault
    | .ok names => d.descend names
  else .error .missing

/-- Whether a path leads to something. A file of which the host tells nothing counts as missing. -/
def isThere (d : Directory) (p : Path) : Bool :=
  match d.lookup p with
  | .error _ => false
  | .ok (.file (.lost _)) => false
  | .ok _ => true

/-- The bytes of the file that a path leads to. -/
def contentAt (d : Directory) (p : Path) : Except Fault Bytes :=
  match d.lookup p with
  | .error fault => .error fault
  | .ok (.dir _) => .error .isDirectory
  | .ok (.file f) => f.content.mapError .refused

/-- Whether a path leads to a directory. -/
def isDir (d : Directory) (p : Path) : Except Fault Unit :=
  match d.lookup p with
  | .error fault => .error fault
  | .ok (.file _) => .error .throughFile
  | .ok (.dir _) => .ok ()

/-- The names under which a file can be written to a path as it is given: the directory on the way
has to be there, and the path may lead to no directory, which also a slash at its end would ask
for. -/
def target (d : Directory) (written : Text) : Except Fault (List Text) :=
  let p := Path.ofText written
  match (Path.segments written).filter fun s => !s.isEmpty with
  | [] => .error (if written.isEmpty then .missing else .isDirectory)
  | s :: ss =>
    let last := (s :: ss).getLast (by simp)
    let isName := Path.isName last && last != Path.parentName
    let above := if isName then { p with names := p.names.dropLast } else p
    match d.isDir above, settle d [] above.names with
    | .error fault, _ => .error fault
    | .ok (), .error fault => .error fault
    | .ok (), .ok names =>
      if !isName || written.endsWith ['/'] then .error .isDirectory
      else
        match d.descend (names ++ [last]) with
        | .ok (.dir _) => .error .isDirectory
        | _ => .ok (names ++ [last])

end Directory

end DeclIndex
