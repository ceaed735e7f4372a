import DeclIndex.Host
import DeclIndex.Scan
import DeclIndex.Value.Json

/-!
# Configurations

A configuration names further languages, patterns for what is left out, and settings of the scan. It
is read from a JSON or a YAML file and laid over the default one.

Not everything that can be wrong with a file is told in a message: whoever loads it is not prepared
for a file that is no UTF-8, nor for a reader that breaks off.

## Main definitions

* `Config` — a configuration.
* `Config.Fault` — why there is none, with `Config.Fault.message?`.
* `Config.load` — the configuration that a file holds.
* `Config.template` — a configuration to start from.
-/

namespace DeclIndex

/-- A configuration: its sections by name. -/
structure Config where
  sections : List (WideText × Value CodePoint)
  deriving Repr

namespace Config

/-! ### Faults -/

/-- Why a file holds no configuration. -/
inductive Fault
  | unreadable (path : Path) (fault : Directory.Fault)
  | notText (fault : Utf8.Fault)
  | notJson (path : Path)
  /-- An integer in JSON has too many digits. -/
  | numberTooLong
  /-- Lists and objects lie too deep in one another. -/
  | nestedTooDeep
  | notYaml (path : Path)
  /-- The reader of YAML breaks off. -/
  | yamlBroken
  | notAnObject (path : Path)
  | badExclude
  deriving DecidableEq, Repr

/-- The words for a fault, if there are any. What the readers of JSON and of YAML say about one,
which stands at the end of two of the messages, is left out. -/
def Fault.message? : Fault → Option Text
  | .unreadable path fault =>
    some ("Cannot read config file ".toList ++ path.text ++ [':', ' '] ++ fault.message path.text)
  | .notText _ => none
  | .notJson path => some ("Invalid JSON in ".toList ++ path.text)
  | .numberTooLong => none
  | .nestedTooDeep => none
  | .notYaml path => some ("Invalid YAML in ".toList ++ path.text)
  | .yamlBroken => none
  | .notAnObject path =>
    some ("Config file ".toList ++ path.text ++ " must contain a mapping at the top level".toList)
  | .badExclude => some "'exclude' must be a list of patterns".toList

/-! ### Sections -/

/-- The default configuration. -/
def default : Config where
  sections := [
    ("exclude", .list []),
    ("languages", .list []),
    ("scan", .object [("max_file_size", .int Scanner.usualLimit), ("workers", .int 1)])]

/-- The value of a section. -/
def get (c : Config) (name : WideText) : Value CodePoint :=
  (c.sections.lookup name).getD .null

/-- All sections as one value. -/
def toValue (c : Config) : Value CodePoint :=
  .object c.sections

/-- The configuration with a section laid over the one of that name: fields over fields, any other
value in the place of the old one. -/
def lay (c : Config) (name : WideText) (v : Value CodePoint) : Config where
  sections :=
    match c.get name, v with
    | .object under, .object upper =>
      Assoc.set name (.object (Assoc.overlay under upper)) c.sections
    | _, v => Assoc.set name v c.sections

/-- The configuration with an empty section read as an empty list. -/
def fill (c : Config) (name : WideText) : Config where
  sections :=
    match c.sections.lookup name with
    | some .null => Assoc.set name (.list []) c.sections
    | _ => c.sections

/-- The default configuration with sections laid over it. -/
def ofSections (sections : List (WideText × Value CodePoint)) : Except Fault Config :=
  let merged := sections.foldl (fun c s => c.lay s.1 s.2) default
  let filled := (merged.fill "exclude").fill "languages"
  match filled.get "exclude" with
  | .list _ => .ok filled
  | _ => .error .badExclude

/-! ### Files -/

/-- The fault of a file whose text writes no value in JSON. -/
def ofJsonFault (path : Path) : Json.Fault → Fault
  | .malformed => .notJson path
  | .tooLong => .numberTooLong
  | .tooDeep => .nestedTooDeep

/-- The fault of a file whose text writes no value in YAML. -/
def ofYamlFault (path : Path) : YamlFault → Fault
  | .malformed => .notYaml path
  | .broken => .yamlBroken

/-- The configuration that a value is; an absent one is the default. -/
def ofValue (path : Path) (v : Value CodePoint) : Except Fault Config :=
  if v.isBlank then ofSections []
  else
    match v with
    | .object sections => ofSections sections
    | _ => .error (.notAnObject path)

section

variable [Host]

/-- The value that a text writes, in JSON if the file says so by its suffix, else in YAML. -/
def parse (path : Path) (t : Text) : Except Fault (Value CodePoint) :=
  if Text.lower path.suffix == ".json".toList then
    (Json.read Host.levels t).mapError (ofJsonFault path)
  else (Host.yaml t).mapError (ofYamlFault path)

/-- The configuration that a file holds. -/
def load (d : Directory) (path : Path) : Except Fault Config := do
  let content ← (d.contentAt path).mapError (.unreadable path)
  let t ← (Utf8.decode content).mapError .notText
  let v ← parse path (Text.unifyBreaks t)
  ofValue path v

end

/-! ### Template -/

/-- The lines of the template. -/
def templateLines : List String :=
  [
    "# =============================================================================",
    "# Code Outline Configuration",
    "# =============================================================================",
    "# Usage:",
    "#   code-outline --input src --config code-outline.yaml -o outline.txt",
    "#",
    "# The outline is heuristic: declarations are recognised line by line with",
    "# keyword tests and regular expressions, never with a real parser. It MAY:",
    "#",
    "#   MISS: declarations split across lines, generated or macro-heavy code",
    "#",
    "#   FALSE POSITIVE: statements that look like declarations, for example a",
    "#                   multi-line call whose first line ends with \"(\"",
    "# =============================================================================",
    "",
    "# =============================================================================",
    "# EXCLUSIONS",
    "# =============================================================================",
    "# Applied in addition to the built-in list and CLI --exclude.",
    "# Patterns starting with '*' match file suffixes, others match directory or",
    "# file names anywhere in the path.",
    "# =============================================================================",
    "exclude:",
    "  # - vendor",
    "  # - third_party",
    "  # - \"*.generated.ts\"",
    "",
    "# =============================================================================",
    "# SCAN SETTINGS",
    "# =============================================================================",
    "scan:",
    "  # Files larger than this many bytes are skipped and counted as failed",
    "  max_file_size: 2097152",
    "  # Parse files on a thread pool when greater than 1",
    "  workers: 1",
    "",
    "# =============================================================================",
    "# EXTRA LANGUAGES",
    "# =============================================================================",
    "# Each entry defines a language profile. An entry whose extension is already",
    "# claimed by a built-in language replaces it for that extension.",
    "#",
    "# Patterns are regular expressions matched against the trimmed source line.",
    "# The declared name is the \"name\" group, or group 1 if there is no named",
    "# group. A \"parent\" group, when present, is reported as the supertype.",
    "# Use single quotes so backslashes need no escaping.",
    "#",
    "#   module, type, method, function, constant: declaration patterns",
    "#   doc_marker:     comment marker of documentation lines (default \"//\")",
    "#   doc_placement:  \"before\" (comments above) or \"after\" (docstrings below)",
    "# =============================================================================",
    "languages:",
    "  # - name: toy",
    "  #   extensions: [\".toy\"]",
    "  #   module: '^module\\s+(\\w+)'",
    "  #   type: '^class\\s+(?P<name>\\w+)(?:\\s*<\\s*(?P<parent>\\w+))?'",
    "  #   function: '^fn\\s+(\\w+)'",
    "  #   doc_marker: \"--\"",
    "  #   doc_placement: before",
    ""]

/-- A configuration to start from, in which all is explained and nothing is set but the defaults. -/
def template : Text :=
  Text.joinWith ['\n'] (templateLines.map String.toList)

end Config

end DeclIndex
