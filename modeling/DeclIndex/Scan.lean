import DeclIndex.Profile.Classify
import DeclIndex.Registry
import DeclIndex.Report
import DeclIndex.Walk

/-!
# Scans

A scan outlines the files below a directory. Every file is handed to the profile for its suffix, or
to the one of a chosen language if it has that suffix. A file that cannot be read is counted as
failed and does not stop the scan.

## Main definitions

* `Scanner` — what a scan goes by, with `Scanner.choose` for a language.
* `Outcome` — what becomes of one file, with `Stats.record` for the counts.
* `Scanner.run` — the outlines of the files below a directory, and the counts.
-/

namespace DeclIndex

/-- The greatest size of a file that is read unless another is given: larger files are most likely
generated. -/
def Scanner.usualLimit : Int :=
  2097152

/-- What a scan goes by. -/
structure Scanner where
  registry : Registry := Registry.builtin
  /-- The only language to outline, if one is chosen. -/
  language : Option Profile := none
  exclude : List Text := Exclude.usual
  /-- The greatest size in bytes of a file that is read; none if any size will do. -/
  limit : Option Int := some Scanner.usualLimit

/-- What becomes of a file. -/
inductive Outcome
  | failed (message : Text)
  | outlined (outline : Outline)
  deriving DecidableEq, Repr

/-- The counts after one more file. -/
def Stats.record (s : Stats) (path : Text) : Outcome → Stats
  | .failed message => { s with processed := s.processed + 1 }.recordFailure path message
  | .outlined _ => { s with processed := s.processed + 1, succeeded := s.succeeded + 1 }

/-- The outline of a file, if it has elements. -/
def Outcome.outline? : Outcome → Option Outline
  | .outlined o => if o.elements.isEmpty then none else some o
  | .failed _ => none

namespace Scanner

/-- Why there is nothing to scan. -/
inductive RootFault
  | missing (root : Path)
  | notADirectory (root : Path)
  deriving DecidableEq, Repr

/-- The words for a fault. -/
def RootFault.message : RootFault → Text
  | .missing root => "Input directory does not exist: ".toList ++ root.text
  | .notADirectory root => "Input path is not a directory: ".toList ++ root.text

/-- The scanner with a language chosen by name; the empty name chooses none. -/
def choose (s : Scanner) (name : Text) : Except Registry.NotFound Scanner :=
  if name.isEmpty then .ok { s with language := none }
  else
    match s.registry.ofLanguage name with
    | .error fault => .error fault
    | .ok p => .ok { s with language := some p }

/-! ### Single files -/

/-- Whether a profile has an extension. -/
def claims (p : Profile) (extension : Text) : Bool :=
  !extension.isEmpty && p.extensions.any fun e => Extension.normalize e == extension

/-- The profile that a file is outlined with. -/
def profileFor? (s : Scanner) (path : Path) : Option Profile :=
  match s.language with
  | none => s.registry.ofSuffix? path.suffix
  | some p => if claims p (Extension.normalize path.suffix) then some p else none

/-- Whether a size is above the limit. -/
def isTooLarge (s : Scanner) (size : Nat) : Bool :=
  match s.limit with
  | none => false
  | some limit => limit < size

/-- What becomes of a file that is outlined with a profile. -/
def outcome (s : Scanner) (p : Profile) (path : Path) (file : File) : Outcome :=
  match file.size with
  | .error said => .failed said
  | .ok size =>
    if s.isTooLarge size then
      .failed ("file too large (".toList ++ Text.ofNat size ++ " bytes)".toList)
    else
      match file.content with
      | .error said => .failed said
      | .ok content =>
        match Utf8.decode content with
        | .error fault => .failed fault.message
        | .ok t => .outlined (p.outline path.text (Text.unifyBreaks t))

/-! ### Runs -/

/-- What becomes of the files that have a profile, in order. -/
def outcomes (s : Scanner) : List (Path × File) → List (Text × Outcome)
  | [] => []
  | (path, file) :: rest =>
    match s.profileFor? path with
    | none => outcomes s rest
    | some p => (path.text, s.outcome p path file) :: outcomes s rest

/-- The number of the files that have no profile. -/
def skipped (s : Scanner) (files : List (Path × File)) : Nat :=
  files.countP fun f => (s.profileFor? f.1).isNone

/-- The outlines with elements, in the order of their paths. -/
def outlines (done : List (Text × Outcome)) : List Outline :=
  sortBy (fun a b => Text.before a.path b.path) (done.filterMap fun o => o.2.outline?)

/-- The counts of a run. -/
def stats (skipped : Nat) (done : List (Text × Outcome)) : Stats :=
  done.foldl (fun s o => s.record o.1 o.2) { skipped := skipped }

/-- What a scan of some files gives. -/
def scanFiles (s : Scanner) (files : List (Path × File)) : List Outline × Stats :=
  let done := s.outcomes files
  (outlines done, stats (s.skipped files) done)

/-- The directory that a path leads to. -/
def rootOf (d : Directory) (root : Path) : Except RootFault Directory :=
  match d.lookup root with
  | .ok (.dir inside) => .ok inside
  | .ok (.file (.lost _)) => .error (.missing root)
  | .ok (.file _) => .error (.notADirectory root)
  | .error _ => .error (.missing root)

/-- The outlines of the files below a path, and the counts. -/
def run (s : Scanner) (d : Directory) (root : Path) : Except RootFault (List Outline × Stats) :=
  match rootOf d root with
  | .error fault => .error fault
  | .ok inside => .ok (s.scanFiles (inside.filesBelow s.exclude root))

end Scanner

end DeclIndex
