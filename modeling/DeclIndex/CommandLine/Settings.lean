import DeclIndex.CommandLine.Arguments
import DeclIndex.Config
import DeclIndex.Profile.Halves
import DeclIndex.Value.Bound

/-!
# Settings of a call

The options of a call and its configuration together tell how to scan. What the configuration says
may be of the wrong kind; that is found out where it is first used.

## Main definitions

* `Misfit` — what a call is not prepared for.
* `Stop` — why a call ends early.
* `Settings` — the configuration of a call with the languages that it adds.
* `Settings.bounds` — the number of workers and the limit on the size of files.
* `Settings.patterns` — the patterns for what is left out.
* `Settings.listsHalves` — whether the table of languages has halves of characters in it.
-/

namespace DeclIndex.CommandLine

/-- What a call is not prepared for, so that it breaks off. -/
inductive Misfit
  /-- The configuration has a fault for which there are no words. -/
  | config (fault : Config.Fault)
  /-- A language of the configuration has a fault for which there are no words. -/
  | entry (fault : Entry.Fault)
  /-- The host does not look a path up. -/
  | pathBarred
  /-- A path holds the character that ends a path. -/
  | nulInPath
  | scanNotAnObject
  | workersNotANumber
  | limitNotANumber
  | patternNotAText
  /-- A number in the report has too many digits. -/
  | reportTooLong
  /-- Half of a character is to be printed. -/
  | halfPrinted
  deriving DecidableEq, Repr

/-- Why a call ends early. -/
inductive Stop
  | message (t : Text)
  | misfit (m : Misfit)
  deriving DecidableEq, Repr

/-- How a call ends whose configuration has a fault. -/
def Stop.ofConfig (fault : Config.Fault) : Stop :=
  match fault.message? with
  | some t => .message t
  | none => .misfit (.config fault)

/-- How a call ends if a language of its configuration has a fault. -/
def Stop.ofEntry (fault : Entry.Fault) : Stop :=
  match fault.message? with
  | some t => .message t
  | none => .misfit (.entry fault)

/-- The configuration of a call with the languages that it adds. -/
structure Settings where
  config : Config := Config.default
  profiles : List Profile := []

namespace Settings

/-! ### Reading the configuration -/

/-- The path of the configuration that a call names; an empty one is none. -/
def path? (a : Arguments) : Option Path :=
  match a.config with
  | some (c :: t) => some (Path.ofText (c :: t))
  | _ => none

section

variable [Host]

/-- The settings of a configuration. -/
def ofConfig (config : Config) : Except Stop Settings :=
  match Entry.wideSection (config.get "languages") with
  | .error fault => .error (.ofEntry fault)
  | .ok profiles => .ok { config := config, profiles := profiles }

/-- The settings that a file holds. -/
def ofFile (d : Directory) (path : Path) : Except Stop Settings :=
  if Host.bars path.text then .error (.misfit .pathBarred)
  else if d.isThere path then
    match Config.load d path with
    | .error fault => .error (.ofConfig fault)
    | .ok config => ofConfig config
  else .error (.message ("Config file '".toList ++ path.text ++ "' does not exist".toList))

/-- The settings of a call. -/
def ofArguments (d : Directory) (a : Arguments) : Except Stop Settings :=
  match path? a with
  | none => .ok {}
  | some path => ofFile d path

end

/-- The registry of the built-in languages and those that the configuration adds. -/
def registry (s : Settings) : Registry :=
  Registry.builtin.registerAll s.profiles

/-- The entries of the configuration. -/
def entries (s : Settings) : List (Value CodePoint) :=
  ((s.config.get "languages").items?).getD []

/-- Whether halves of characters are to be printed with the registered languages and their
extensions: an extension has some, or the name of the language that has an extension, which is
left empty then. -/
def listsHalves (s : Settings) : Bool :=
  s.entries.any (Entry.hasHalves "extensions") || s.registry.owners.any fun o => o.2.isEmpty

/-! ### Patterns -/

/-- The patterns of the configuration. -/
def ownPatterns (s : Settings) : List (Value CodePoint) :=
  ((s.config.get "exclude").items?).getD []

/-- All patterns: those that always hold, those of the configuration, those of the call. -/
def patterns (s : Settings) (a : Arguments) : List (Value CodePoint) :=
  (Exclude.usual.map fun t => .text (Text.wide t)) ++ s.ownPatterns ++
    a.exclude.map fun t => .text (Text.wide t)

/-- The patterns before the first that is no text. -/
def leadingTexts : List (Value CodePoint) → List WideText
  | .text t :: rest => t :: leadingTexts rest
  | _ => []

/-- The patterns that can match something: those made of characters, as the names of files are. -/
def matchable (patterns : List WideText) : List Text :=
  patterns.filterMap WideText.narrow?

/-- Whether an entry of a directory is kept. -/
def keepsSome (patterns : List Text) : Directory → Bool
  | .empty => false
  | .file name _ others => Exclude.keeps patterns [name] || keepsSome patterns others
  | .dir name _ others => Exclude.keeps patterns [name] || keepsSome patterns others

/-- The patterns as texts. One that is no text matters only if some entry of the directory is kept
by the patterns before it; if none is, those leave nothing to scan. -/
def usable (patterns : List (Value CodePoint)) (inside : Directory) : Except Stop (List Text) :=
  let texts := leadingTexts patterns
  if texts.length < patterns.length && keepsSome (matchable texts) inside then
    .error (.misfit .patternNotAText)
  else .ok (matchable texts)

/-! ### Bounds -/

/-- The section on the scan. -/
def scanSection (s : Settings) : Value CodePoint :=
  let v := s.config.get "scan"
  if v.isBlank then .object [] else v

/-- A setting of the section on the scan. -/
def scanSetting (s : Settings) (name : WideText) (usual : Int) : Except Stop (Value CodePoint) :=
  match s.scanSection with
  | .object fields => .ok ((fields.lookup name).getD (.int usual))
  | _ => .error (.misfit .scanNotAnObject)

/-- The number of workers, of the call or else of the configuration. -/
def workers (s : Settings) (a : Arguments) : Except Stop (Value CodePoint) :=
  match a.workers with
  | some n => .ok (.int n)
  | none => s.scanSetting "workers" 1

/-- Whether the number of workers will do. -/
def checkWorkers (v : Value CodePoint) : Except Stop Unit :=
  match v.bound? with
  | none => .error (.misfit .workersNotANumber)
  | some (.floor n) =>
    if n < 1 then .error (.message "--workers must be at least 1") else .ok ()
  | some .unbounded => .ok ()

/-- The limit on the size of files. -/
def limit (s : Settings) : Except Stop (Value CodePoint) :=
  s.scanSetting "max_file_size" Scanner.usualLimit

/-- The limit for a scanner. One that is no number matters only if there is a file to compare. -/
def usableLimit (v : Value CodePoint) (hasFiles : Bool) : Except Stop (Option Int) :=
  match v.bound? with
  | some (.floor n) => .ok (some n)
  | some .unbounded => .ok none
  | none => if hasFiles then .error (.misfit .limitNotANumber) else .ok none

/-- The language that a call chooses, if any. -/
def language (s : Settings) (a : Arguments) : Except Stop (Option Profile) :=
  match a.language with
  | some (c :: t) =>
    match s.registry.ofLanguage (c :: t) with
    | .ok p => .ok (some p)
    | .error fault => .error (.message fault.message)
  | _ => .ok none

end Settings

end DeclIndex.CommandLine
