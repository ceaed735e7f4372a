import DeclIndex.CommandLine.Switch
import DeclIndex.Text.Number

/-!
# Arguments of the command line

Arguments are first told apart, each by itself: options, values and what is neither. An option may
be written by its long name, by the beginning of one if no other begins so, or by a letter; letters
may share a dash. Its value is the next argument, or follows an equals sign, or the letter. Then the
options are obeyed from left to right, the later of two counts.

## Main definitions

* `Argument` — an argument by itself, with `Argument.ofText?`.
* `Arguments` — what the options ask for.
* `Request.read` — what the arguments of a call ask for.
-/

namespace DeclIndex.CommandLine

/-! ### Single arguments -/

/-- An argument by itself. -/
inductive Argument
  /-- A value, of an option or of none. -/
  | value (t : Text)
  /-- Options that share a dash, the last apart, with the value that is part of the argument. -/
  | switches (before : List Switch) (last : Switch) (given : Option Text)
  /-- A known option that is not written as it has to be. -/
  | misused
  /-- No known option and no value. -/
  | unknown
  deriving DecidableEq, Repr

namespace Argument

/-- An option with a value that is joined to it. -/
def joined (before : List Switch) (s : Switch) (given : Text) : Argument :=
  if s.takesValue then .switches before s (some given) else .misused

/-- Options that share a dash: `s` comes after those before, and a text after its letter. After an
option without a value comes a further letter, which may be unknown. -/
def share (before : List Switch) (s : Switch) : Text → List Argument
  | [] => [.switches before s none]
  | c :: rest =>
    if s.takesValue then [.switches before s (some (c :: rest))]
    else if c = '-' then [.misused]
    else
      match Switch.ofLetter? c, rest with
      | none, _ => [.switches before s none, .unknown]
      | some t, '=' :: given => [joined (before ++ [s]) t given]
      | some t, rest => share (before ++ [s]) t rest

/-- A long option with the value after an equals sign, if there is one. -/
def long (s : Switch) : Option Text → Argument
  | none => .switches [] s none
  | some given => joined [] s given

/-- A text cut at its first equals sign. -/
def cut (t : Text) : Text × Option Text :=
  let name := t.takeWhile (· != '=')
  match t.drop name.length with
  | [] => (name, none)
  | _ :: given => (name, some given)

/-- Whether a text is a negative number: digits, perhaps with a point and digits after it. -/
def isNegative (t : Text) : Bool :=
  match t with
  | '-' :: digits =>
    let whole := digits.takeWhile Text.isDigit
    match digits.drop whole.length with
    | [] => !whole.isEmpty
    | '.' :: fraction => !fraction.isEmpty && fraction.all Text.isDigit
    | _ => false
  | _ => false

/-- An argument that begins with a dash and names no option. -/
def other (t : Text) : Argument :=
  if isNegative t || t.elem ' ' then .value t else .unknown

/-- What follows two dashes. Nothing if it may be the beginning of several options. -/
def ofLong? (t : Text) : Option Argument :=
  let (name, given) := cut t
  match Switch.ofName? name, Switch.ofStart name with
  | some s, _ => some (long s given)
  | none, [] => some (other ('-' :: '-' :: t))
  | none, [s] => some (long s given)
  | none, _ => none

/-- What follows one dash. -/
def ofShort (c : Char) (rest : Text) : List Argument :=
  match Switch.ofLetter? c, rest with
  | none, _ => [other ('-' :: c :: rest)]
  | some s, '=' :: given => [joined [] s given]
  | some s, rest => share [] s rest

/-- What a text is by itself; letters that share a dash with one that is unknown are told apart from
it. Nothing if the text may be the beginning of several options. -/
def ofText? : Text → Option (List Argument)
  | '-' :: '-' :: t => (ofLong? t).map ([·])
  | '-' :: c :: rest => some (ofShort c rest)
  | t => some [.value t]

/-- What texts are, each by itself. Two dashes alone and what follows them belong to no option. -/
def ofTexts? : List Text → Option (List Argument)
  | [] => some []
  | t :: rest =>
    if t = ['-', '-'] then some [.unknown]
    else
      match ofText? t, ofTexts? rest with
      | some a, some as => some (a ++ as)
      | _, _ => none

end Argument

/-! ### All arguments -/

/-- The forms of a report. -/
inductive Format
  | text
  | json
  deriving DecidableEq, Repr

/-- The form with a given word. -/
def Format.ofWord? (t : Text) : Option Format :=
  if t = "text".toList then some .text else if t = "json".toList then some .json else none

/-- What the options ask for. -/
structure Arguments where
  input : Text := ['.']
  output : Option Text := none
  language : Option Text := none
  format : Format := .text
  exclude : List Text := []
  workers : Option Int := none
  config : Option Text := none
  initConfig : Bool := false
  listLanguages : Bool := false
  verbose : Bool := false
  deriving DecidableEq, Repr

/-- What a call asks for. -/
inductive Request
  | run (a : Arguments)
  | help
  | version
  /-- The arguments make no sense. -/
  | unclear
  deriving DecidableEq, Repr

namespace Request

/-- The arguments after an option without a value, or the request that it is. -/
def obey (a : Arguments) : Switch → Except Request Arguments
  | .help => .error .help
  | .version => .error .version
  | .initConfig => .ok { a with initConfig := true }
  | .listLanguages => .ok { a with listLanguages := true }
  | .verbose => .ok { a with verbose := true }
  | _ => .error .unclear

/-- The arguments after an option with a value. -/
def obeyWith (a : Arguments) (t : Text) : Switch → Except Request Arguments
  | .input => .ok { a with input := t }
  | .output => .ok { a with output := some t }
  | .language => .ok { a with language := some t }
  | .exclude => .ok { a with exclude := [t] }
  | .config => .ok { a with config := some t }
  | .format =>
    match Format.ofWord? t with
    | some f => .ok { a with format := f }
    | none => .error .unclear
  | .workers =>
    match Text.readInt? t with
    | some n => .ok { a with workers := some n }
    | none => .error .unclear
  | _ => .error .unclear

/-- The arguments after options that share a dash. -/
def obeyAll (a : Arguments) (before : List Switch) (last : Switch) (t : Option Text) :
    Except Request Arguments :=
  match before.foldlM obey a, t with
  | .error r, _ => .error r
  | .ok a, none => obey a last
  | .ok a, some t => obeyWith a t last

/-- What the remaining arguments ask for. While `isOpen` holds, values are further patterns of the
option for exclusions; `stray` tells whether there was an argument that belongs to no option. -/
def obeyFrom (a : Arguments) (isOpen stray : Bool) : List Argument → Request
  | [] => if stray then .unclear else .run a
  | .value t :: rest =>
    if isOpen then obeyFrom { a with exclude := a.exclude ++ [t] } true stray rest
    else obeyFrom a false true rest
  | .unknown :: rest => obeyFrom a false true rest
  | .misused :: _ => .unclear
  | .switches before last (some given) :: rest =>
    match obeyAll a before last (some given) with
    | .error r => r
    | .ok a => obeyFrom a false stray rest
  | .switches before last none :: .value t :: rest =>
    if last.takesValue then
      match obeyAll a before last (some t) with
      | .error r => r
      | .ok a => obeyFrom a (last == .exclude) stray rest
    else
      match obeyAll a before last none with
      | .error r => r
      | .ok a => obeyFrom a false stray (.value t :: rest)
  | .switches before last none :: rest =>
    if last.takesValue then .unclear
    else
      match obeyAll a before last none with
      | .error r => r
      | .ok a => obeyFrom a false stray rest

/-- What the arguments of a call ask for. -/
def read (texts : List Text) : Request :=
  match Argument.ofTexts? texts with
  | none => .unclear
  | some arguments => obeyFrom {} false false arguments

end Request

end DeclIndex.CommandLine
