import DeclIndex.Extension
import DeclIndex.Host
import DeclIndex.Pattern.NameGroup
import DeclIndex.Profile.Basic

/-!
# Languages from a configuration

An entry of a configuration describes a language by a name, extensions and a pattern for each kind
of declaration. The declared name is the group called `name`, or the first group.

An explicit pattern for methods is tried before the one for functions, so that it can claim its
lines.

What is wrong with an entry is told in a message, save for two faults of its patterns: whoever reads
the entry is not prepared for them.

## Main definitions

* `Entry.Fault` — what can be wrong with an entry, with `Entry.Fault.message?`.
* `Entry.profile` — the profile that an entry describes.
* `Entry.profiles` — the profiles of all entries of a configuration.
-/

namespace DeclIndex.Entry

/-! ### Faults -/

/-- What can be wrong with an entry. -/
inductive Fault
  /-- The languages are no list. -/
  | notAList
  /-- An entry is no object but a value of another kind. -/
  | notAnObject (kind : Text)
  | noName
  | notTexts (language key : Text)
  | noExtensions (language : Text)
  | notAPattern (language key : Text)
  /-- A pattern whose group could be named but which then is no pattern. -/
  | badPattern (language key : Text)
  /-- A text is no pattern at all. -/
  | invalid (written : Text)
  /-- A pattern has no group for the name. -/
  | noGroup (written : Text)
  | noRules (language : Text)
  | badDocMarker (language : Text)
  | badPlacement (language : Text)
  | badDetection (language : Text)
  /-- A pattern asks for too many repetitions. -/
  | boundTooLarge
  /-- A pattern is nested too deeply to be read. -/
  | patternTooDeep
  deriving DecidableEq, Repr

/-- How a message about a language begins. -/
def about (language : Text) : Text :=
  "Language '".toList ++ language ++ ['\'']

/-- The words for a fault, if there are any. What the reader of patterns says about one, which
stands at the end of two of the messages, is left out. -/
def Fault.message? : Fault → Option Text
  | .notAList => some "'languages' must be a list of language entries".toList
  | .notAnObject kind => some ("Language entry must be a mapping, got ".toList ++ kind)
  | .noName => some "Language entry is missing a 'name'".toList
  | .notTexts language key =>
    some (about language ++ ": '".toList ++ key ++ "' must be a string or a list of strings".toList)
  | .noExtensions language => some (about language ++ " declares no extensions".toList)
  | .notAPattern language key =>
    some (about language ++ ": '".toList ++ key ++ "' must be a regular expression string".toList)
  | .badPattern language key =>
    some (about language ++ ": invalid '".toList ++ key ++ "' pattern".toList)
  | .invalid written => some ("Invalid pattern ".toList ++ Text.quoted written)
  | .noGroup written =>
    some ("Pattern ".toList ++ Text.quoted written ++
      " has no capturing group for the name".toList)
  | .noRules language => some (about language ++ " defines no declaration patterns".toList)
  | .badDocMarker language =>
    some (about language ++ ": 'doc_marker' must be a non-empty string".toList)
  | .badPlacement language =>
    some (about language ++ ": 'doc_placement' must be 'before' or 'after'".toList)
  | .badDetection language =>
    some (about language ++ ": 'method_detection' must be one of indent, receiver, none".toList)
  | .boundTooLarge => none
  | .patternTooDeep => none

/-! ### Fields -/

/-- The texts of a field: one text, or a list of texts, or none if the field is absent. -/
def texts (entry : Value) (language key : Text) : Except Fault (List Text) :=
  match entry.field? key with
  | none => .ok []
  | some (.text t) => .ok [t]
  | some (.list items) =>
    if items.all fun v => v.text?.isSome then .ok (items.filterMap Value.text?)
    else .error (.notTexts language key)
  | some _ => .error (.notTexts language key)

/-- The kinds of declarations that an entry has patterns for, in the order of their rules. -/
def ruleKinds : List Kind :=
  [.module, .type, .method, .function, .constant]

variable [Host]

/-- The rule of a pattern. -/
def ruleOf (language : Text) (kind : Kind) (written : Text) : Except Fault Rule :=
  if Host.exhausts written then .error .patternTooDeep
  else
    match Pattern.nameGroup written with
    | .error (.invalid _ .boundTooLarge) => .error .boundTooLarge
    | .error (.invalid _ .boundTooLong) => .error (.badPattern language kind.word)
    | .error (.invalid written _) => .error (.invalid written)
    | .error (.noGroup written) => .error (.noGroup written)
    | .error .notFound => .error (.badPattern language kind.word)
    | .ok named =>
      if Host.exhausts named then .error .patternTooDeep
      else
        match ({ kind := kind, pattern := named } : Rule.Written).read with
        | .error (.pattern .boundTooLarge) => .error .boundTooLarge
        | .error _ => .error (.badPattern language kind.word)
        | .ok rule => .ok rule

/-- The rules of an entry for some kinds. -/
def rules (entry : Value) (language : Text) : List Kind → Except Fault (List Rule)
  | [] => .ok []
  | kind :: kinds =>
    match (entry.field? kind.word).getD .null with
    | .text (c :: t) =>
      match ruleOf language kind (c :: t) with
      | .error fault => .error fault
      | .ok rule => (rules entry language kinds).map (rule :: ·)
    | v =>
      if v.isBlank then rules entry language kinds else .error (.notAPattern language kind.word)

/-- The marker of documentation lines. -/
def docMarker (entry : Value) (language : Text) : Except Fault Text :=
  match (entry.field? "doc_marker").getD (.ofString "//") with
  | .text (c :: t) => .ok (c :: t)
  | _ => .error (.badDocMarker language)

/-- Where the documentation stands. -/
def placement (entry : Value) (language : Text) : Except Fault Placement :=
  match ((entry.field? "doc_placement").getD (.ofString "before")).text?.bind Placement.ofWord? with
  | some p => .ok p
  | none => .error (.badPlacement language)

/-- How a function is told from a method. -/
def detection (entry : Value) (language : Text) : Except Fault MethodDetection :=
  match ((entry.field? "method_detection").getD (.ofString "indent")).text?.bind
      MethodDetection.ofWord? with
  | some m => .ok m
  | none => .error (.badDetection language)

/-! ### Profiles -/

/-- The name of the language. -/
def name (entry : Value) : Except Fault Text :=
  match entry with
  | .object _ =>
    match (entry.field? "name").getD .null with
    | .text (c :: t) => .ok (c :: t)
    | _ => .error .noName
  | v => .error (.notAnObject v.kindWord)

/-- The profile that an entry describes. -/
def profile (entry : Value) : Except Fault Profile := do
  let language ← name entry
  let extensions ← texts entry language "extensions"
  if extensions.isEmpty then throw (.noExtensions language)
  let rules ← rules entry language ruleKinds
  if rules.isEmpty then throw (.noRules language)
  let marker ← docMarker entry language
  let placement ← placement entry language
  let detection ← detection entry language
  let comments ← texts entry language "comment_markers"
  let control ← texts entry language "control_keywords"
  let comments := if comments.isEmpty then [marker] else comments
  return {
    name := language
    extensions := extensions.map Extension.normalize
    rules := rules
    commentMarkers := comments
    docMarkers := distinct (marker :: comments)
    controlWords := if control.isEmpty then commonControlWords else distinct control
    methodDetection := detection
    docPlacement := placement }

/-- The profiles of some entries, or the fault of the first that has one. -/
def profilesOf : List Value → Except Fault (List Profile)
  | [] => .ok []
  | entry :: rest =>
    match profile entry with
    | .error fault => .error fault
    | .ok p => (profilesOf rest).map (p :: ·)

/-- The profiles of the entries in a section of a configuration. -/
def sectionProfiles (languages : Value) : Except Fault (List Profile) :=
  if languages.isBlank then .ok []
  else
    match languages with
    | .list entries => profilesOf entries
    | _ => .error .notAList

/-- The profiles of all entries of a configuration. -/
def profiles (config : Value) : Except Fault (List Profile) :=
  sectionProfiles ((config.field? "languages").getD .null)

end DeclIndex.Entry
