import DeclIndex.CommandLine.Settings

/-!
# The program

A call as a function: from the arguments and the files to what is printed, the status and the files
afterwards. A call that ends early prints nothing but messages, and writes no file; only a report
that cannot be written, because it has halves of characters in it, leaves an empty one.

## Main definitions

* `Call` — a call with all that it depends on.
* `Result` — what a call leads to.
* `Call.run` — the result of a call.
-/

namespace DeclIndex.CommandLine

/-- A call: its arguments, the files it finds, where it stands and what time it is. -/
structure Call where
  arguments : List Text
  files : Directory
  here : Path
  time : Text

/-- How a call ends. -/
inductive Ending
  | status (n : Nat)
  | misfit (m : Misfit)
  deriving DecidableEq, Repr

/-- What a call leads to. -/
structure Result where
  ending : Ending
  output : Text := []
  messages : Text := []
  files : Directory

namespace Call

/-! ### Endings -/

/-- A call that ends well. -/
def done (c : Call) (output messages : Text) : Result where
  ending := .status 0
  output := output
  messages := messages
  files := c.files

/-- A call that ends early, after some messages. -/
def stopped (c : Call) (messages : Text) : Stop → Result
  | .message t =>
    { ending := .status 1
      messages := messages ++ "Error: ".toList ++ t ++ ['\n']
      files := c.files }
  | .misfit m => { ending := .misfit m, messages := messages, files := c.files }

/-! ### Messages -/

/-- Lines that are printed only on demand. -/
def note (a : Arguments) (lines : List Text) : Text :=
  if a.verbose then lines.flatMap fun l => l ++ ['\n'] else []

/-- The lines about the configuration. -/
def configLines (a : Arguments) (s : Settings) : List Text :=
  match Settings.path? a with
  | none => []
  | some path => [
      "Loaded config: ".toList ++ path.text,
      "  languages: ".toList ++ Text.ofNat s.profiles.length,
      "  exclude: ".toList ++ Text.ofNat s.ownPatterns.length ++ " patterns".toList]

/-- The lines about the counts of a scan. -/
def countLines (s : Stats) : List Text :=
  ("Processed: ".toList ++ Text.ofInt s.processed ++ ", succeeded: ".toList ++
      Text.ofInt s.succeeded ++ ", failed: ".toList ++ Text.ofInt s.failed) ::
    s.errors.map fun e => "  ! ".toList ++ e.1 ++ [':', ' '] ++ e.2

/-- The registered languages by name, each with its extensions; a language without any is left
out. -/
def languageTable (r : Registry) : Text :=
  let names := sortBy Text.before r.languageNames
  let lines := names.filterMap fun name =>
    match sortBy Text.before ((r.owners.filter fun o => o.2 == name).map (·.1)) with
    | [] => none
    | extensions =>
      some (Text.padRight 12 ' ' name ++ [' '] ++ Text.joinWith [',', ' '] extensions)
  Text.joinWith ['\n'] lines ++ ['\n']

/-- How the program is called. -/
def usage : Text :=
  "usage: code-outline [options]\n"

variable [Host]

/-! ### Scans -/

/-- The outlines of the files below the directory that a call names, and the counts. -/
def scan (c : Call) (a : Arguments) (s : Settings) (limit : Value CodePoint) :
    Except Stop (List Outline × Stats) := do
  let root := Path.ofText a.input
  let language ← s.language a
  if Host.bars root.text then throw (.misfit .pathBarred)
  let inside ← (Scanner.rootOf c.files root).mapError fun fault => .message fault.message
  let patterns ← Settings.usable (s.patterns a) inside
  let scanner : Scanner := { registry := s.registry, language := language, exclude := patterns }
  let files := inside.filesBelow patterns root
  let limit ← Settings.usableLimit limit
    (files.any fun f => (scanner.profileFor? f.1).isSome && f.2.size.isOk)
  return { scanner with limit := limit }.scanFiles files

/-- The report that a call asks for. -/
def report (c : Call) (a : Arguments) (outlines : List Outline) (stats : Stats) : Option Text :=
  match a.format with
  | .text => some (Report.text outlines)
  | .json =>
    Report.json c.time outlines (some stats) (some ((Path.ofText a.input).absolute c.here).text)

/-- The names under which the report is written to a path. -/
def place (d : Directory) (written : Text) : Except Stop (List Text) :=
  if '\x00' ∈ written then .error (.misfit .nulInPath)
  else
    match d.target written with
    | .error fault => .error (.message ("Cannot write output: ".toList ++ fault.message written))
    | .ok names =>
      match Host.denies written with
      | some said => .error (.message ("Cannot write output: ".toList ++ said))
      | none => .ok names

/-- Whether the report has halves of characters in it: it tells of a language whose name has some,
which is left empty then. -/
def tellsHalves (a : Arguments) (outlines : List Outline) : Bool :=
  a.format == .json && outlines.any fun o => o.language.isEmpty

/-- The result of a call that has a report: it is printed, or written to a file. If the report has
halves of characters in it, the file is opened all the same, and stays empty. -/
def deliver (c : Call) (a : Arguments) (messages report : Text) (outlines : List Outline)
    (stats : Stats) : Result :=
  match a.output with
  | none =>
    if tellsHalves a outlines then c.stopped messages (.misfit .halfPrinted)
    else c.done report (messages ++ note a (countLines stats))
  | some written =>
    match place c.files written with
    | .error stop => c.stopped messages stop
    | .ok names =>
      if tellsHalves a outlines then
        { c.stopped messages (.misfit .halfPrinted) with files := c.files.write [] names }
      else
        { c.done [] (messages ++
            note a (("Output written to: ".toList ++ written) :: countLines stats)) with
          files := c.files.write (Utf8.encode report) names }

/-- The result of a call that scans. -/
def outline (c : Call) (a : Arguments) (s : Settings) (messages : Text) : Result :=
  match s.workers a >>= Settings.checkWorkers with
  | .error stop => c.stopped messages stop
  | .ok () =>
    let root := Path.ofText a.input
    if a.verbose ∧ '\x00' ∈ root.text then c.stopped messages (.misfit .nulInPath)
    else
      let messages := messages ++ note a ["Scanning: ".toList ++ (root.absolute c.here).text]
      match s.limit >>= c.scan a s with
      | .error stop => c.stopped messages stop
      | .ok (outlines, stats) =>
        match c.report a outlines stats with
        | none => c.stopped messages (.misfit .reportTooLong)
        | some report => c.deliver a messages report outlines stats

/-! ### Calls -/

/-- The result of a call with readable arguments. -/
def perform (c : Call) (a : Arguments) : Result :=
  if a.initConfig then c.done (Config.template ++ ['\n']) []
  else
    match Settings.ofArguments c.files a with
    | .error stop => c.stopped [] stop
    | .ok s =>
      let messages := note a (configLines a s)
      if a.listLanguages then
        if s.listsHalves then c.stopped messages (.misfit .halfPrinted)
        else c.done (languageTable s.registry) messages
      else c.outline a s messages

/-- The result of a call. -/
def run (c : Call) : Result :=
  match Request.read c.arguments with
  | .run a => c.perform a
  | .help => c.done usage []
  | .version => c.done ("code_outline ".toList ++ Report.version ++ ['\n']) []
  | .unclear => { ending := .status 2, messages := usage, files := c.files }

end Call

end DeclIndex.CommandLine
