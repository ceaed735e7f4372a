import DeclIndex.Text.Basic

/-!
# Options of the command line

## Main definitions

* `Switch` — the options.
* `Switch.ofName?`, `Switch.ofLetter?` — the options by their names.
* `Switch.takesValue` — whether a value belongs to an option.
-/

namespace DeclIndex.CommandLine

/-- The options of the command line. -/
inductive Switch
  | help
  | input
  | output
  | language
  | format
  | exclude
  | workers
  | config
  | initConfig
  | listLanguages
  | verbose
  | version
  deriving DecidableEq, Repr

namespace Switch

/-- All options. -/
def all : List Switch :=
  [.help, .input, .output, .language, .format, .exclude, .workers, .config, .initConfig,
    .listLanguages, .verbose, .version]

/-- The long name, which follows two dashes. -/
def name : Switch → Text
  | .help => "help"
  | .input => "input"
  | .output => "output"
  | .language => "lang"
  | .format => "format"
  | .exclude => "exclude"
  | .workers => "workers"
  | .config => "config"
  | .initConfig => "init-config"
  | .listLanguages => "list-languages"
  | .verbose => "verbose"
  | .version => "version"

/-- The letter that may follow one dash instead. -/
def letter? : Switch → Option Char
  | .help => some 'h'
  | .input => some 'i'
  | .output => some 'o'
  | .language => some 'l'
  | .verbose => some 'v'
  | _ => none

/-- Whether a value belongs to the option. -/
def takesValue : Switch → Bool
  | .input | .output | .language | .format | .exclude | .workers | .config => true
  | .help | .initConfig | .listLanguages | .verbose | .version => false

/-- The option with a long name. -/
def ofName? (t : Text) : Option Switch :=
  all.find? fun s => s.name == t

/-- The option with a letter. -/
def ofLetter? (c : Char) : Option Switch :=
  all.find? fun s => s.letter? == some c

/-- The options whose long name begins with a text. -/
def ofStart (t : Text) : List Switch :=
  all.filter fun s => s.name.startsWith t

end Switch

end DeclIndex.CommandLine
