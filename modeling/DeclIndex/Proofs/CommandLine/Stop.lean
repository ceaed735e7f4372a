import DeclIndex.CommandLine.Program
import DeclIndex.Proofs.Directory
import DeclIndex.Proofs.Fallible

/-!
# Why a call stops

A call passes several stages: it reads its configuration, finds out the number of workers, looks at
the limit, the language and the directory, scans, and delivers its report. At each stage it can
stop. A relation lists the reasons, each with what has gone well before. A call that stops for a
reason does nothing but to print messages, save that the file for a report with halves of characters
is opened before that is noticed. A call that stops for none of the reasons ends well, unless its
arguments make no sense.

## Main definitions

* `Reason` — why a call ends early, with `Reason.stop` for how it ends then.
* `Call.Reads`, `Call.Scans`, `Call.Bounded`, `Call.Starts` — the stages of a call.
* `Call.StopsFor` — a call stops for a reason.

## Main results

* `Call.run_of_stopsFor` — what a call does that stops for a reason.
* `Call.exists_stopsFor_or_ends` — every call stops for a reason or ends otherwise.
-/

namespace DeclIndex.CommandLine

/-- Why a call ends early. -/
inductive Reason
  | configMissing (path : Path)
  | config (fault : Config.Fault)
  | entry (fault : Entry.Fault)
  | fewWorkers
  | language (fault : Registry.NotFound)
  | root (fault : Scanner.RootFault)
  | output (written : Text) (fault : Directory.Fault)
  /-- The host does not open the file for the report. -/
  | outputDenied (said : Text)
  | misfit (m : Misfit)

/-- How a call ends early. -/
def Reason.stop : Reason → Stop
  | .configMissing path =>
    .message ("Config file '".toList ++ path.text ++ "' does not exist".toList)
  | .config fault => .ofConfig fault
  | .entry fault => .ofEntry fault
  | .fewWorkers => .message "--workers must be at least 1"
  | .language fault => .message fault.message
  | .root fault => .message fault.message
  | .output written fault => .message ("Cannot write output: ".toList ++ fault.message written)
  | .outputDenied said => .message ("Cannot write output: ".toList ++ said)
  | .misfit m => .misfit m

namespace Call

/-! ## Stages -/

/-- The arguments of a call make sense, and the call reads its configuration. -/
structure Reads (c : Call) (a : Arguments) : Prop where
  arguments : Request.read c.arguments = .run a
  initConfig : a.initConfig = false

section

variable [Host]

/-- The call names a configuration that is there. -/
structure Finds (c : Call) (a : Arguments) (path : Path) : Prop extends Reads c a where
  named : Settings.path? a = some path
  free : Host.bars path.text = false
  there : c.files.isThere path = true

/-- The call has settings and asks for the table of languages. -/
structure Lists (c : Call) (a : Arguments) (s : Settings) : Prop extends Reads c a where
  settings : Settings.ofArguments c.files a = .ok s
  listLanguages : a.listLanguages = true

/-- The call has settings and asks for a scan. -/
structure Scans (c : Call) (a : Arguments) (s : Settings) : Prop extends Reads c a where
  settings : Settings.ofArguments c.files a = .ok s
  listLanguages : a.listLanguages = false

/-- The call does not tell of a directory whose path holds the character that ends a path. -/
def TellsNoNul (a : Arguments) : Prop :=
  ¬(a.verbose ∧ '\x00' ∈ (Path.ofText a.input).text)

/-- The number of workers will do, and the section on the scan is one. -/
structure Bounded (c : Call) (a : Arguments) (s : Settings) (limit : Value CodePoint) : Prop
    extends Scans c a s where
  workers : (s.workers a >>= Settings.checkWorkers) = .ok ()
  input : TellsNoNul a
  bound : s.limit = .ok limit

/-- The language is known, and there is a directory to scan. -/
structure Starts (c : Call) (a : Arguments) (s : Settings) (limit : Value CodePoint)
    (language : Option Profile) (inside : Directory) : Prop extends Bounded c a s limit where
  language : s.language a = .ok language
  free : Host.bars (Path.ofText a.input).text = false
  root : Scanner.rootOf c.files (Path.ofText a.input) = .ok inside

/-- There is a report, to be written to a path. -/
structure Writes (c : Call) (a : Arguments) (s : Settings) (limit : Value CodePoint)
    (language : Option Profile) (inside : Directory) (written : Text) : Prop
    extends Starts c a s limit language inside where
  report : ∃ outlines stats report, c.scan a s limit = .ok (outlines, stats) ∧
    c.report a outlines stats = some report
  output : a.output = some written

/-- A call stops for a reason. -/
inductive StopsFor (c : Call) : Reason → Prop
  /-- The host does not look up the path of the configuration. -/
  | configBarred {a : Arguments} {path : Path} (h : Reads c a)
      (hpath : Settings.path? a = some path) (hbars : Host.bars path.text = true) :
      StopsFor c (.misfit .pathBarred)
  /-- The path of the configuration leads nowhere. -/
  | configMissing {a : Arguments} {path : Path} (h : Reads c a)
      (hpath : Settings.path? a = some path) (hfree : Host.bars path.text = false)
      (hthere : c.files.isThere path = false) : StopsFor c (.configMissing path)
  /-- The configuration cannot be read or decoded, is malformed or beyond the limits of its reader,
  is no object, or its patterns are no list. -/
  | config {a : Arguments} {path : Path} {fault : Config.Fault} (h : Finds c a path)
      (hload : Config.load c.files path = .error fault) : StopsFor c (.config fault)
  /-- An entry of the configuration describes no language. -/
  | entry {a : Arguments} {path : Path} {config : Config} {fault : Entry.Fault}
      (h : Finds c a path) (hload : Config.load c.files path = .ok config)
      (hentries : Entry.wideSection (config.get "languages") = .error fault) :
      StopsFor c (.entry fault)
  /-- The table of languages has halves of characters in it. -/
  | tableHalved {a : Arguments} {s : Settings} (h : Lists c a s) (hhalves : s.listsHalves = true) :
      StopsFor c (.misfit .halfPrinted)
  /-- Fewer workers than one are asked for. -/
  | fewWorkers {a : Arguments} {s : Settings} {v : Value CodePoint} {n : Int} (h : Scans c a s)
      (hworkers : s.workers a = .ok v) (hbound : v.bound? = some (.floor n)) (hfew : n < 1) :
      StopsFor c .fewWorkers
  /-- The number of workers in the configuration is none. -/
  | workersNotANumber {a : Arguments} {s : Settings} {v : Value CodePoint} (h : Scans c a s)
      (hworkers : s.workers a = .ok v) (hbound : v.bound? = none) :
      StopsFor c (.misfit .workersNotANumber)
  /-- The call is to tell of a directory whose path holds the character that ends a path. -/
  | inputNul {a : Arguments} {s : Settings} (h : Scans c a s)
      (hworkers : (s.workers a >>= Settings.checkWorkers) = .ok ()) (hinput : ¬TellsNoNul a) :
      StopsFor c (.misfit .nulInPath)
  /-- The section on the scan is neither blank nor an object, and nothing is wrong with the number
  of workers that the call itself asks for, nor with the path that it then tells of. -/
  | scanNotAnObject {a : Arguments} {s : Settings} (h : Scans c a s)
      (hsection : ∀ fields, s.scanSection ≠ .object fields)
      (hworkers : ∀ n, a.workers = some n → 1 ≤ n ∧ TellsNoNul a) :
      StopsFor c (.misfit .scanNotAnObject)
  /-- The language is unknown. -/
  | language {a : Arguments} {s : Settings} {limit : Value CodePoint} {name : Text}
      {fault : Registry.NotFound} (h : Bounded c a s limit) (hname : a.language = some name)
      (hne : name ≠ []) (hlanguage : s.registry.ofLanguage name = .error fault) :
      StopsFor c (.language fault)
  /-- The host does not look up the path of the directory. -/
  | rootBarred {a : Arguments} {s : Settings} {limit : Value CodePoint}
      {language : Option Profile} (h : Bounded c a s limit)
      (hlanguage : s.language a = .ok language)
      (hbars : Host.bars (Path.ofText a.input).text = true) : StopsFor c (.misfit .pathBarred)
  /-- There is no directory to scan. -/
  | root {a : Arguments} {s : Settings} {limit : Value CodePoint} {language : Option Profile}
      {fault : Scanner.RootFault} (h : Bounded c a s limit)
      (hlanguage : s.language a = .ok language)
      (hfree : Host.bars (Path.ofText a.input).text = false)
      (hroot : Scanner.rootOf c.files (Path.ofText a.input) = .error fault) :
      StopsFor c (.root fault)
  /-- A pattern is no text, and the patterns before it keep some entry of the directory. -/
  | patternNotAText {a : Arguments} {s : Settings} {limit : Value CodePoint}
      {language : Option Profile} {inside : Directory} {before : List WideText}
      {v : Value CodePoint} {after : List (Value CodePoint)}
      (h : Starts c a s limit language inside)
      (hpatterns : s.patterns a = before.map .text ++ v :: after) (hv : v.text? = none)
      (hkept : ∃ name ∈ inside.names,
        Exclude.keeps (Settings.matchable before) [name] = true) :
      StopsFor c (.misfit .patternNotAText)
  /-- The limit is no number, and there is a file whose size is to be compared with it. -/
  | limitNotANumber {a : Arguments} {s : Settings} {limit : Value CodePoint}
      {language : Option Profile} {inside : Directory} {patterns : List Text}
      (h : Starts c a s limit language inside)
      (hpatterns : Settings.usable (s.patterns a) inside = .ok patterns)
      (hbound : limit.bound? = none)
      (hfile : ∃ f ∈ inside.filesBelow patterns (Path.ofText a.input),
        (({ registry := s.registry, language := language } : Scanner).profileFor? f.1).isSome ∧
          f.2.size.isOk) :
      StopsFor c (.misfit .limitNotANumber)
  /-- A number in the report has too many digits. -/
  | reportTooLong {a : Arguments} {s : Settings} {limit : Value CodePoint}
      {language : Option Profile} {inside : Directory} {outlines : List Outline} {stats : Stats}
      (h : Starts c a s limit language inside) (hscan : c.scan a s limit = .ok (outlines, stats))
      (hreport : c.report a outlines stats = none) : StopsFor c (.misfit .reportTooLong)
  /-- The report has halves of characters in it, and there is a place for it. -/
  | reportHalved {a : Arguments} {s : Settings} {limit : Value CodePoint}
      {language : Option Profile} {inside : Directory} {outlines : List Outline} {stats : Stats}
      {report : Text} (h : Starts c a s limit language inside)
      (hscan : c.scan a s limit = .ok (outlines, stats))
      (hreport : c.report a outlines stats = some report)
      (hhalves : tellsHalves a outlines = true)
      (hplace : ∀ written, a.output = some written → ∃ names, place c.files written = .ok names) :
      StopsFor c (.misfit .halfPrinted)
  /-- The path for the report holds the character that ends a path. -/
  | outputNul {a : Arguments} {s : Settings} {limit : Value CodePoint}
      {language : Option Profile} {inside : Directory} {written : Text}
      (h : Writes c a s limit language inside written) (hnul : '\x00' ∈ written) :
      StopsFor c (.misfit .nulInPath)
  /-- The report cannot be written. -/
  | output {a : Arguments} {s : Settings} {limit : Value CodePoint} {language : Option Profile}
      {inside : Directory} {written : Text} {fault : Directory.Fault}
      (h : Writes c a s limit language inside written) (hnul : '\x00' ∉ written)
      (htarget : c.files.target written = .error fault) : StopsFor c (.output written fault)
  /-- The host does not open the file for the report. -/
  | outputDenied {a : Arguments} {s : Settings} {limit : Value CodePoint}
      {language : Option Profile} {inside : Directory} {written said : Text} {names : List Text}
      (h : Writes c a s limit language inside written) (hnul : '\x00' ∉ written)
      (htarget : c.files.target written = .ok names) (hdenies : Host.denies written = some said) :
      StopsFor c (.outputDenied said)

end

end Call

/-! ## Where settings stop a call -/

namespace Settings

variable {s : Settings} {a : Arguments} {stop : Stop}

/-- The section on the scan has no settings if it is no object. -/
lemma scanSetting_eq_error_iff {name : WideText} {usual : Int} :
    s.scanSetting name usual = .error stop ↔
      stop = .misfit .scanNotAnObject ∧ ∀ fields, s.scanSection ≠ .object fields := by
  unfold scanSetting
  cases s.scanSection <;> simp [eq_comm]

/-- Whether some number is one of workers. -/
lemma checkWorkers_eq_error_iff {v : Value CodePoint} :
    checkWorkers v = .error stop ↔
      (stop = .misfit .workersNotANumber ∧ v.bound? = none) ∨
        (stop = Reason.fewWorkers.stop ∧ ∃ n, v.bound? = some (.floor n) ∧ n < 1) := by
  unfold checkWorkers
  cases hbound : v.bound? with
  | none => simp [eq_comm]
  | some b =>
    cases b with
    | floor n =>
      by_cases hn : n < 1
      · simp [hn, Reason.stop, eq_comm]
      · simp [hn]
    | unbounded => simp

/-- Why there is no number of workers. -/
lemma workers_eq_error_iff :
    s.workers a = .error stop ↔ a.workers = none ∧ stop = .misfit .scanNotAnObject ∧
      ∀ fields, s.scanSection ≠ .object fields := by
  unfold workers
  cases a.workers with
  | none => simp [scanSetting_eq_error_iff]
  | some n => simp

/-- A number of workers that the call itself asks for. -/
lemma checkWorkers_int_eq_ok_iff {n : Int} : checkWorkers (.int n) = .ok () ↔ 1 ≤ n := by
  unfold checkWorkers Value.bound?
  by_cases hn : n < 1
  · simp [hn]
  · simp [hn]
    omega

/-- Why there is no language. -/
lemma language_eq_error_iff :
    s.language a = .error stop ↔ ∃ name fault, a.language = some name ∧ name ≠ [] ∧
      s.registry.ofLanguage name = .error fault ∧ stop = (Reason.language fault).stop := by
  unfold language
  cases a.language with
  | none => simp
  | some name =>
    cases name with
    | nil => simp
    | cons c t =>
      cases hfound : s.registry.ofLanguage (c :: t) with
      | error fault => simp [hfound, Reason.stop, eq_comm]
      | ok p => simp [hfound]

/-- Some entry of a directory is kept if one of its names is. -/
lemma keepsSome_eq_true_iff {patterns : List Text} {d : Directory} :
    keepsSome patterns d = true ↔ ∃ name ∈ d.names, Exclude.keeps patterns [name] = true := by
  induction d with
  | empty => simp [keepsSome, Directory.names]
  | file name f others ih => simp [keepsSome, Directory.names, ih]
  | dir name inside others _ ih => simp [keepsSome, Directory.names, ih]

/-- The patterns are texts up to the first that is none. -/
lemma leadingTexts_cases (patterns : List (Value CodePoint)) :
    patterns = (leadingTexts patterns).map .text ∨ ∃ v after,
      patterns = (leadingTexts patterns).map .text ++ v :: after ∧ v.text? = none := by
  induction patterns with
  | nil => exact Or.inl rfl
  | cons v rest ih =>
    cases v with
    | text t =>
      rcases ih with h | ⟨v, after, h, hv⟩
      · exact Or.inl (congrArg (.text t :: ·) h)
      · exact Or.inr ⟨v, after, congrArg (.text t :: ·) h, hv⟩
    | _ => exact Or.inr ⟨_, rest, rfl, rfl⟩

/-- The texts before a pattern that is no text. -/
lemma leadingTexts_append {v : Value CodePoint} (hv : v.text? = none) (before : List WideText)
    (after : List (Value CodePoint)) : leadingTexts (before.map .text ++ v :: after) = before := by
  induction before with
  | nil =>
    cases v with
    | text t => cases hv
    | _ => rfl
  | cons t before ih => exact congrArg (t :: ·) ih

/-- Patterns cannot be used if one is no text and those before it keep some entry. -/
lemma usable_eq_error_iff {patterns : List (Value CodePoint)} {inside : Directory} :
    usable patterns inside = .error stop ↔ stop = .misfit .patternNotAText ∧
      ∃ before v after, patterns = List.map .text before ++ v :: after ∧ v.text? = none ∧
        ∃ name ∈ inside.names, Exclude.keeps (matchable before) [name] = true := by
  unfold usable
  dsimp only
  constructor
  · intro h
    split at h
    · rename_i hcond
      obtain ⟨hlt, hkeeps⟩ := Bool.and_eq_true_iff.mp hcond
      cases h
      refine ⟨rfl, leadingTexts patterns, ?_⟩
      rcases leadingTexts_cases patterns with hall | ⟨v, after, heq, hv⟩
      · have hlength := congrArg List.length hall
        rw [List.length_map] at hlength
        rw [← hlength] at hlt
        simp at hlt
      · exact ⟨v, after, heq, hv, keepsSome_eq_true_iff.mp hkeeps⟩
    · cases h
  · rintro ⟨rfl, before, v, after, rfl, hv, hkept⟩
    rw [leadingTexts_append hv, keepsSome_eq_true_iff.mpr hkept, if_pos (by simp)]

/-- The limit cannot be used if it is no number and there is a file. -/
lemma usableLimit_eq_error_iff {v : Value CodePoint} {hasFiles : Bool} :
    usableLimit v hasFiles = .error stop ↔
      stop = .misfit .limitNotANumber ∧ v.bound? = none ∧ hasFiles = true := by
  unfold usableLimit
  cases hbound : v.bound? with
  | none => cases hasFiles <;> simp [eq_comm]
  | some b => cases b <;> simp

section

variable [Host]

/-- Why there are no settings of a configuration. -/
lemma ofConfig_eq_error_iff {config : Config} :
    ofConfig config = .error stop ↔
      ∃ fault, Entry.wideSection (config.get "languages") = .error fault ∧
        stop = (Reason.entry fault).stop := by
  unfold ofConfig
  cases Entry.wideSection (config.get "languages") with
  | error fault => simp [Reason.stop, eq_comm]
  | ok profiles => simp

/-- Why a call has no settings. -/
lemma ofArguments_eq_error_iff {d : Directory} :
    ofArguments d a = .error stop ↔ ∃ path, path? a = some path ∧
      ((Host.bars path.text = true ∧ stop = (Reason.misfit .pathBarred).stop) ∨
        Host.bars path.text = false ∧
          ((d.isThere path = false ∧ stop = (Reason.configMissing path).stop) ∨
            d.isThere path = true ∧
              ((∃ fault, Config.load d path = .error fault ∧ stop = (Reason.config fault).stop) ∨
                ∃ config, Config.load d path = .ok config ∧ ofConfig config = .error stop))) := by
  unfold ofArguments
  cases path? a with
  | none => simp
  | some path =>
    simp only [Option.some.injEq, exists_eq_left', ofFile]
    cases hbars : Host.bars path.text with
    | true =>
      simp only [if_true, Except.error.injEq, true_and, reduceCtorEq, false_and, or_false]
      exact eq_comm
    | false =>
      cases d.isThere path with
      | false => simp [Reason.stop, eq_comm]
      | true =>
        cases Config.load d path with
        | error fault => simp [Reason.stop, eq_comm]
        | ok config => simp

end

end Settings

namespace Call

variable {c : Call} {a : Arguments} {s : Settings} {limit : Value CodePoint} {stop : Stop}

/-! ## Messages -/

/-- Lines on demand, one after the other. -/
lemma note_append (lines more : List Text) :
    note a lines ++ note a more = note a (lines ++ more) := by
  unfold note
  split <;> simp

/-- No lines. -/
lemma note_nil : note a [] = [] := by
  unfold note
  split <;> rfl

/-- The lines before a scan. -/
def linesBefore (c : Call) (a : Arguments) (s : Settings) : List Text :=
  configLines a s ++ ["Scanning: ".toList ++ ((Path.ofText a.input).absolute c.here).text]

/-! ## Where a scan stops a call, and where the place of its report does -/

variable [Host]

/-- Why a scan stops. -/
lemma scan_eq_error_iff :
    c.scan a s limit = .error stop ↔ s.language a = .error stop ∨
      ∃ language, s.language a = .ok language ∧
        ((Host.bars (Path.ofText a.input).text = true ∧
            stop = (Reason.misfit .pathBarred).stop) ∨
          Host.bars (Path.ofText a.input).text = false ∧
            ((∃ fault, Scanner.rootOf c.files (Path.ofText a.input) = .error fault ∧
                stop = (Reason.root fault).stop) ∨
              ∃ inside, Scanner.rootOf c.files (Path.ofText a.input) = .ok inside ∧
                (Settings.usable (s.patterns a) inside = .error stop ∨
                  ∃ patterns, Settings.usable (s.patterns a) inside = .ok patterns ∧
                    Settings.usableLimit limit
                      ((inside.filesBelow patterns (Path.ofText a.input)).any fun f =>
                        (({ registry := s.registry, language := language } :
                          Scanner).profileFor? f.1).isSome && f.2.size.isOk) = .error stop))) := by
  simp only [scan, bind_eq_error_iff, check_eq_error_iff]
  refine or_congr Iff.rfl (exists_congr fun language => and_congr_right fun _ => ?_)
  refine or_congr (and_congr_right fun _ => eq_comm) (and_congr_right fun _ => ?_)
  cases Scanner.rootOf c.files (Path.ofText a.input) with
  | error fault => simp [Except.mapError, Reason.stop, eq_comm]
  | ok inside =>
    simp only [Except.mapError, reduceCtorEq, false_and, exists_false, false_or, Except.ok.injEq,
      exists_eq_left']
    refine or_congr Iff.rfl (exists_congr fun patterns => and_congr_right fun _ => ?_)
    exact or_iff_left (by rintro ⟨_, _, h⟩; cases h)

/-- Why there is no place for the report. -/
lemma place_eq_error_iff {d : Directory} {written : Text} :
    place d written = .error stop ↔
      ('\x00' ∈ written ∧ stop = (Reason.misfit .nulInPath).stop) ∨
        '\x00' ∉ written ∧
          ((∃ fault, d.target written = .error fault ∧
              stop = (Reason.output written fault).stop) ∨
            ∃ names, d.target written = .ok names ∧ ∃ said, Host.denies written = some said ∧
              stop = (Reason.outputDenied said).stop) := by
  unfold place
  by_cases hnul : '\x00' ∈ written
  · simp [hnul, Reason.stop, eq_comm]
  · simp only [hnul, if_false, false_and, false_or, not_false_eq_true, true_and]
    cases d.target written with
    | error fault => simp [Reason.stop, eq_comm]
    | ok names =>
      cases Host.denies written with
      | none => simp
      | some said => simp [Reason.stop, eq_comm]

/-! ## What a call does that stops -/

/-- A call without settings. -/
lemma run_of_settings_error (h : Reads c a) (hs : Settings.ofArguments c.files a = .error stop) :
    c.run = c.stopped (note a []) stop := by
  unfold run perform
  rw [h.arguments]
  simp [h.initConfig, hs, note_nil]

/-- A call that is to print a table with halves of characters. -/
lemma run_of_listsHalves (h : Lists c a s) (hhalves : s.listsHalves = true) :
    c.run = c.stopped (note a (configLines a s)) (.misfit .halfPrinted) := by
  unfold run perform
  rw [h.arguments]
  simp [h.initConfig, h.settings, h.listLanguages, hhalves]

/-- A call that asks for a scan. -/
lemma run_of_scans (h : Scans c a s) : c.run = c.outline a s (note a (configLines a s)) := by
  unfold run perform
  rw [h.arguments]
  simp [h.initConfig, h.settings, h.listLanguages]

/-- A call whose number of workers will not do. -/
lemma run_of_workers_error (h : Scans c a s)
    (hworkers : (s.workers a >>= Settings.checkWorkers) = .error stop) :
    c.run = c.stopped (note a (configLines a s)) stop := by
  rw [run_of_scans h]
  unfold outline
  rw [hworkers]

section

variable (h : Scans c a s) (hworkers : (s.workers a >>= Settings.checkWorkers) = .ok ())
include h hworkers

/-- A call that cannot tell of its directory. -/
lemma run_of_not_tellsNoNul (hinput : ¬TellsNoNul a) :
    c.run = c.stopped (note a (configLines a s)) (.misfit .nulInPath) := by
  rw [run_of_scans h]
  unfold outline
  rw [hworkers]
  exact if_pos (not_not.mp hinput)

/-- A call that stops at its limit or in its scan. -/
lemma run_of_scan_error (hinput : TellsNoNul a) (hscan : (s.limit >>= c.scan a s) = .error stop) :
    c.run = c.stopped (note a (linesBefore c a s)) stop := by
  rw [run_of_scans h]
  unfold outline linesBefore
  rw [hworkers, hscan, ← note_append]
  exact if_neg hinput

/-- A call that scans. -/
lemma run_of_scan_ok (hinput : TellsNoNul a) {outlines : List Outline} {stats : Stats}
    (hscan : (s.limit >>= c.scan a s) = .ok (outlines, stats)) :
    c.run = match c.report a outlines stats with
      | none => c.stopped (note a (linesBefore c a s)) (.misfit .reportTooLong)
      | some report => c.deliver a (note a (linesBefore c a s)) report outlines stats := by
  rw [run_of_scans h]
  unfold outline linesBefore
  rw [hworkers, hscan, ← note_append]
  exact if_neg hinput

end

/-- A call that stops in its scan. -/
lemma Bounded.run_of_scan_error (h : Bounded c a s limit) (hscan : c.scan a s limit = .error stop) :
    c.run = c.stopped (note a (linesBefore c a s)) stop :=
  Call.run_of_scan_error h.toScans h.workers h.input
    (bind_eq_error_iff.mpr (.inr ⟨_, h.bound, hscan⟩))

/-- A call whose report has no place. -/
lemma Writes.run_of_place_error {language : Option Profile} {inside : Directory} {written : Text}
    (h : Writes c a s limit language inside written)
    (hplace : place c.files written = .error stop) :
    c.run = c.stopped (note a (linesBefore c a s)) stop := by
  obtain ⟨outlines, stats, report, hscan, hreport⟩ := h.report
  rw [run_of_scan_ok h.toScans h.workers h.input (bind_eq_ok_iff.mpr ⟨_, h.bound, hscan⟩), hreport]
  dsimp only
  rw [deliver, h.output]
  dsimp only
  rw [hplace]

/-- A call whose report has halves of characters in it. -/
lemma Starts.run_of_tellsHalves {language : Option Profile} {inside : Directory}
    {outlines : List Outline} {stats : Stats} {report : Text}
    (h : Starts c a s limit language inside) (hscan : c.scan a s limit = .ok (outlines, stats))
    (hreport : c.report a outlines stats = some report) (hhalves : tellsHalves a outlines = true)
    (hplace : ∀ written, a.output = some written → ∃ names, place c.files written = .ok names) :
    ∃ files, c.run =
      { c.stopped (note a (linesBefore c a s)) (.misfit .halfPrinted) with files := files } := by
  rw [run_of_scan_ok h.toScans h.workers h.input (bind_eq_ok_iff.mpr ⟨_, h.bound, hscan⟩), hreport]
  dsimp only
  unfold deliver
  cases houtput : a.output with
  | none => exact ⟨c.files, if_pos hhalves⟩
  | some written =>
    obtain ⟨names, hnames⟩ := hplace written houtput
    dsimp only
    rw [hnames]
    exact ⟨_, if_pos hhalves⟩

/-- **A call that stops prints nothing but messages**, and leaves the files as they are unless it
has halves of characters to print. -/
theorem run_of_stopsFor {r : Reason} (h : StopsFor c r) :
    ∃ a lines, Request.read c.arguments = .run a ∧
      (c.run = c.stopped (note a lines) r.stop ∨
        r = .misfit .halfPrinted ∧
          ∃ files, c.run = { c.stopped (note a lines) r.stop with files := files }) := by
  cases h with
  | configBarred h hpath hbars =>
    have hs := (Settings.ofArguments_eq_error_iff (d := c.files)).mpr
      ⟨_, hpath, .inl ⟨hbars, rfl⟩⟩
    exact ⟨_, _, h.arguments, .inl (run_of_settings_error h hs)⟩
  | configMissing h hpath hfree hthere =>
    have hs := Settings.ofArguments_eq_error_iff.mpr
      ⟨_, hpath, .inr ⟨hfree, .inl ⟨hthere, rfl⟩⟩⟩
    exact ⟨_, _, h.arguments, .inl (run_of_settings_error h hs)⟩
  | config h hload =>
    have hs := Settings.ofArguments_eq_error_iff.mpr
      ⟨_, h.named, .inr ⟨h.free, .inr ⟨h.there, .inl ⟨_, hload, rfl⟩⟩⟩⟩
    exact ⟨_, _, h.arguments, .inl (run_of_settings_error h.toReads hs)⟩
  | entry h hload hentries =>
    have hstop := Settings.ofConfig_eq_error_iff.mpr ⟨_, hentries, rfl⟩
    have hs := Settings.ofArguments_eq_error_iff.mpr
      ⟨_, h.named, .inr ⟨h.free, .inr ⟨h.there, .inr ⟨_, hload, hstop⟩⟩⟩⟩
    exact ⟨_, _, h.arguments, .inl (run_of_settings_error h.toReads hs)⟩
  | tableHalved h hhalves =>
    exact ⟨_, _, h.arguments, .inl (run_of_listsHalves h hhalves)⟩
  | fewWorkers h hworkers hbound hfew =>
    have hcheck := Settings.checkWorkers_eq_error_iff.mpr (.inr ⟨rfl, _, hbound, hfew⟩)
    have hstop := bind_eq_error_iff.mpr (.inr ⟨_, hworkers, hcheck⟩)
    exact ⟨_, _, h.arguments, .inl (run_of_workers_error h hstop)⟩
  | workersNotANumber h hworkers hbound =>
    have hcheck := Settings.checkWorkers_eq_error_iff.mpr (.inl ⟨rfl, hbound⟩)
    have hstop := bind_eq_error_iff.mpr (.inr ⟨_, hworkers, hcheck⟩)
    exact ⟨_, _, h.arguments, .inl (run_of_workers_error h hstop)⟩
  | inputNul h hworkers hinput =>
    exact ⟨_, _, h.arguments, .inl (run_of_not_tellsNoNul h hworkers hinput)⟩
  | @scanNotAnObject a s h hsection hworkers =>
    -- the section is asked for the number of workers first, unless the call gives that number
    cases hgiven : a.workers with
    | none =>
      have hsetting := Settings.workers_eq_error_iff.mpr ⟨hgiven, rfl, hsection⟩
      exact ⟨a, _, h.arguments,
        .inl (run_of_workers_error h (bind_eq_error_iff.mpr (.inl hsetting)))⟩
    | some n =>
      obtain ⟨hn, hinput⟩ := hworkers n hgiven
      have hok : (s.workers a >>= Settings.checkWorkers) = .ok () :=
        bind_eq_ok_iff.mpr ⟨.int n, by rw [Settings.workers, hgiven],
          Settings.checkWorkers_int_eq_ok_iff.mpr hn⟩
      have hlimit : s.limit = .error (.misfit .scanNotAnObject) :=
        Settings.scanSetting_eq_error_iff.mpr ⟨rfl, hsection⟩
      exact ⟨a, _, h.arguments,
        .inl (run_of_scan_error h hok hinput (bind_eq_error_iff.mpr (.inl hlimit)))⟩
  | language h hname hne hlanguage =>
    have hstop := Settings.language_eq_error_iff.mpr ⟨_, _, hname, hne, hlanguage, rfl⟩
    exact ⟨_, _, h.arguments, .inl (h.run_of_scan_error (scan_eq_error_iff.mpr (.inl hstop)))⟩
  | rootBarred h hlanguage hbars =>
    exact ⟨_, _, h.arguments, .inl (h.run_of_scan_error (scan_eq_error_iff.mpr
      (.inr ⟨_, hlanguage, .inl ⟨hbars, rfl⟩⟩)))⟩
  | root h hlanguage hfree hroot =>
    exact ⟨_, _, h.arguments, .inl (h.run_of_scan_error (scan_eq_error_iff.mpr
      (.inr ⟨_, hlanguage, .inr ⟨hfree, .inl ⟨_, hroot, rfl⟩⟩⟩)))⟩
  | patternNotAText h hpatterns hv hkept =>
    have hstop := Settings.usable_eq_error_iff.mpr ⟨rfl, _, _, _, hpatterns, hv, hkept⟩
    exact ⟨_, _, h.arguments, .inl (h.run_of_scan_error (scan_eq_error_iff.mpr
      (.inr ⟨_, h.language, .inr ⟨h.free, .inr ⟨_, h.root, .inl hstop⟩⟩⟩)))⟩
  | limitNotANumber h hpatterns hbound hfile =>
    simp only [← Bool.and_eq_true] at hfile
    have hstop := Settings.usableLimit_eq_error_iff.mpr
      ⟨rfl, hbound, List.any_eq_true.mpr hfile⟩
    exact ⟨_, _, h.arguments, .inl (h.run_of_scan_error (scan_eq_error_iff.mpr
      (.inr ⟨_, h.language, .inr ⟨h.free, .inr ⟨_, h.root, .inr ⟨_, hpatterns, hstop⟩⟩⟩⟩)))⟩
  | reportTooLong h hscan hreport =>
    have hrun := run_of_scan_ok h.toScans h.workers h.input
      (bind_eq_ok_iff.mpr ⟨_, h.bound, hscan⟩)
    rw [hreport] at hrun
    exact ⟨_, _, h.arguments, .inl hrun⟩
  | reportHalved h hscan hreport hhalves hplace =>
    obtain ⟨files, hrun⟩ := h.run_of_tellsHalves hscan hreport hhalves hplace
    exact ⟨_, _, h.arguments, .inr ⟨rfl, files, hrun⟩⟩
  | outputNul h hnul =>
    exact ⟨_, _, h.arguments,
      .inl (h.run_of_place_error (place_eq_error_iff.mpr (.inl ⟨hnul, rfl⟩)))⟩
  | output h hnul htarget =>
    exact ⟨_, _, h.arguments, .inl (h.run_of_place_error (place_eq_error_iff.mpr
      (.inr ⟨hnul, .inl ⟨_, htarget, rfl⟩⟩)))⟩
  | outputDenied h hnul htarget hdenies =>
    exact ⟨_, _, h.arguments, .inl (h.run_of_place_error (place_eq_error_iff.mpr
      (.inr ⟨hnul, .inr ⟨_, htarget, _, hdenies, rfl⟩⟩)))⟩

/-! ## What a call does that does not stop -/

/-- A scan that stops, stops for a reason. -/
lemma Bounded.exists_stopsFor_of_scan_error (h : Bounded c a s limit)
    (hscan : c.scan a s limit = .error stop) : ∃ r, StopsFor c r := by
  rcases scan_eq_error_iff.mp hscan with
    hlanguage | ⟨language, hlanguage, ⟨hbars, -⟩ | ⟨hfree, hroot | hinside⟩⟩
  · obtain ⟨name, fault, hname, hne, hfault, -⟩ := Settings.language_eq_error_iff.mp hlanguage
    exact ⟨_, .language h hname hne hfault⟩
  · exact ⟨_, .rootBarred h hlanguage hbars⟩
  · obtain ⟨fault, hfault, -⟩ := hroot
    exact ⟨_, .root h hlanguage hfree hfault⟩
  · obtain ⟨inside, hinside, hpatterns | ⟨patterns, hpatterns, hlimit⟩⟩ := hinside
    · obtain ⟨-, before, v, after, heq, hv, hkept⟩ := Settings.usable_eq_error_iff.mp hpatterns
      exact ⟨_, .patternNotAText ⟨h, hlanguage, hfree, hinside⟩ heq hv hkept⟩
    · obtain ⟨-, hbound, hfile⟩ := Settings.usableLimit_eq_error_iff.mp hlimit
      have hfile := List.any_eq_true.mp hfile
      simp only [Bool.and_eq_true] at hfile
      exact ⟨_, .limitNotANumber ⟨h, hlanguage, hfree, hinside⟩ hpatterns hbound hfile⟩

/-- A scan that comes to an end has a language and a directory. -/
lemma Bounded.starts_of_scan_ok {result : List Outline × Stats} (h : Bounded c a s limit)
    (hscan : c.scan a s limit = .ok result) :
    ∃ language inside, Starts c a s limit language inside := by
  simp only [scan, bind_eq_ok_iff, check_eq_ok_iff, mapError_eq_ok_iff] at hscan
  obtain ⟨language, hlanguage, hfree, inside, hroot, -⟩ := hscan
  exact ⟨language, inside, h, hlanguage, hfree, hroot⟩

/-- A call without settings stops for a reason. -/
lemma Reads.exists_stopsFor_of_settings_error (h : Reads c a)
    (hs : Settings.ofArguments c.files a = .error stop) : ∃ r, StopsFor c r := by
  obtain ⟨path, hpath, ⟨hbars, -⟩ | ⟨hfree, ⟨hthere, -⟩ | ⟨hthere, hload⟩⟩⟩ :=
    Settings.ofArguments_eq_error_iff.mp hs
  · exact ⟨_, .configBarred h hpath hbars⟩
  · exact ⟨_, .configMissing h hpath hfree hthere⟩
  · have hfinds : Finds c a path := ⟨h, hpath, hfree, hthere⟩
    obtain ⟨fault, hload, -⟩ | ⟨config, hload, hconfig⟩ := hload
    · exact ⟨_, .config hfinds hload⟩
    · obtain ⟨fault, hentries, -⟩ := Settings.ofConfig_eq_error_iff.mp hconfig
      exact ⟨_, .entry hfinds hload hentries⟩

/-- A call whose number of workers will not do stops for a reason. -/
lemma Scans.exists_stopsFor_of_workers_error (h : Scans c a s)
    (hworkers : (s.workers a >>= Settings.checkWorkers) = .error stop) : ∃ r, StopsFor c r := by
  rcases bind_eq_error_iff.mp hworkers with hsetting | ⟨v, hv, hcheck⟩
  · obtain ⟨hnone, -, hsection⟩ := Settings.workers_eq_error_iff.mp hsetting
    exact ⟨_, .scanNotAnObject h hsection (fun n hn => nomatch hnone.symm.trans hn)⟩
  · rcases Settings.checkWorkers_eq_error_iff.mp hcheck with ⟨-, hbound⟩ | ⟨-, n, hbound, hfew⟩
    · exact ⟨_, .workersNotANumber h hv hbound⟩
    · exact ⟨_, .fewWorkers h hv hbound hfew⟩

/-- A call whose number of workers will do and whose limit is not to be had stops for a reason. -/
lemma Scans.exists_stopsFor_of_limit_error (h : Scans c a s)
    (hworkers : (s.workers a >>= Settings.checkWorkers) = .ok ()) (hinput : TellsNoNul a)
    (hlimit : s.limit = .error stop) : ∃ r, StopsFor c r := by
  refine ⟨_, .scanNotAnObject h (Settings.scanSetting_eq_error_iff.mp hlimit).2
    fun n hn => ⟨?_, hinput⟩⟩
  obtain ⟨v, hv, hcheck⟩ := bind_eq_ok_iff.mp hworkers
  rw [Settings.workers, hn] at hv
  cases hv
  exact Settings.checkWorkers_int_eq_ok_iff.mp hcheck

/-- A report that has no place stops the call for a reason. -/
lemma Writes.exists_stopsFor_of_place_error {language : Option Profile} {inside : Directory}
    {written : Text} (h : Writes c a s limit language inside written)
    (hplace : place c.files written = .error stop) : ∃ r, StopsFor c r := by
  obtain ⟨hnul, -⟩ | ⟨hnul, ⟨fault, htarget, -⟩ | ⟨names, htarget, said, hdenies, -⟩⟩ :=
    place_eq_error_iff.mp hplace
  · exact ⟨_, .outputNul h hnul⟩
  · exact ⟨_, .output h hnul htarget⟩
  · exact ⟨_, .outputDenied h hnul htarget hdenies⟩

/-- The report of a scan is delivered, or the call stops for a reason. -/
lemma Starts.exists_stopsFor_or_delivers {language : Option Profile} {inside : Directory}
    {outlines : List Outline} {stats : Stats} (h : Starts c a s limit language inside)
    (hscan : c.scan a s limit = .ok (outlines, stats)) :
    (∃ r, StopsFor c r) ∨ c.run.ending = .status 0 := by
  have hrun := run_of_scan_ok h.toScans h.workers h.input
    (bind_eq_ok_iff.mpr ⟨_, h.bound, hscan⟩)
  cases hreport : c.report a outlines stats with
  | none => exact .inl ⟨_, .reportTooLong h hscan hreport⟩
  | some report =>
    rw [hreport] at hrun
    dsimp only at hrun
    unfold deliver at hrun
    cases houtput : a.output with
    | none =>
      by_cases hhalves : tellsHalves a outlines = true
      · exact .inl ⟨_, .reportHalved h hscan hreport hhalves
          fun written hwritten => nomatch houtput.symm.trans hwritten⟩
      · rw [hrun, houtput]
        exact .inr (by rw [if_neg hhalves]; rfl)
    | some written =>
      cases hplace : place c.files written with
      | error stop =>
        have hwrites : Writes c a s limit language inside written :=
          ⟨h, ⟨outlines, stats, report, hscan, hreport⟩, houtput⟩
        exact .inl (hwrites.exists_stopsFor_of_place_error hplace)
      | ok names =>
        by_cases hhalves : tellsHalves a outlines = true
        · refine .inl ⟨_, .reportHalved h hscan hreport hhalves fun other hother => ?_⟩
          cases houtput.symm.trans hother
          exact ⟨names, hplace⟩
        · simp only [houtput, hplace, if_neg hhalves] at hrun
          rw [hrun]
          exact .inr rfl

/-- A call that asks for a scan ends well or stops for a reason. -/
lemma Scans.exists_stopsFor_or_ends (h : Scans c a s) :
    (∃ r, StopsFor c r) ∨ c.run.ending = .status 0 := by
  cases hworkers : s.workers a >>= Settings.checkWorkers with
  | error stop => exact .inl (h.exists_stopsFor_of_workers_error hworkers)
  | ok u =>
    by_cases hinput : TellsNoNul a
    · cases hlimit : s.limit with
      | error stop => exact .inl (h.exists_stopsFor_of_limit_error hworkers hinput hlimit)
      | ok limit =>
        have hbounded : Bounded c a s limit := ⟨h, hworkers, hinput, hlimit⟩
        cases hscan : c.scan a s limit with
        | error stop => exact .inl (hbounded.exists_stopsFor_of_scan_error hscan)
        | ok result =>
          obtain ⟨language, inside, hstarts⟩ := hbounded.starts_of_scan_ok hscan
          exact hstarts.exists_stopsFor_or_delivers hscan
    · exact .inl ⟨_, .inputNul h hworkers hinput⟩

/-- **A call whose arguments make sense** ends well or stops for a reason. -/
theorem exists_stopsFor_or_ends (harguments : Request.read c.arguments = .run a) :
    (∃ r, StopsFor c r) ∨ c.run.ending = .status 0 := by
  have hrun : c.run = c.perform a := by rw [run, harguments]
  unfold perform at hrun
  split at hrun
  · rw [hrun]
    exact .inr rfl
  · rename_i hinit
    have hreads : Reads c a := ⟨harguments, Bool.eq_false_iff.mpr hinit⟩
    split at hrun
    · rename_i stop hs
      exact .inl (hreads.exists_stopsFor_of_settings_error hs)
    · rename_i s hs
      by_cases hlist : a.listLanguages = true
      · by_cases hhalves : s.listsHalves = true
        · exact .inl ⟨_, .tableHalved ⟨hreads, hs, hlist⟩ hhalves⟩
        · rw [hrun, if_pos hlist, if_neg hhalves]
          exact .inr rfl
      · exact Scans.exists_stopsFor_or_ends ⟨hreads, hs, Bool.eq_false_iff.mpr hlist⟩

end Call

end DeclIndex.CommandLine
