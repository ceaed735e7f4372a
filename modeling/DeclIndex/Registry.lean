import DeclIndex.Assoc
import DeclIndex.Extension
import DeclIndex.Language.Builtin

/-!
# The registry

Languages are found by the extension of a file or by name. Where two profiles claim an extension,
the later registration has it, so that a configuration can take an extension over.

## Main definitions

* `Registry` — the profiles by extension and by name.
* `Registry.register` — a registry with one more profile.
* `Registry.ofExtension?`, `Registry.ofLanguage` — the look-ups.
-/

namespace DeclIndex

/-- The profiles by extension and by name, each in the order of first registration. -/
structure Registry where
  extensions : List (Text × Profile) := []
  languages : List (Text × Profile) := []

namespace Registry

/-- What was looked for and is not registered. -/
inductive NotFound
  | extension (e : Text)
  | language (name : Text)
  deriving DecidableEq, Repr

/-- The words for a failed look-up. -/
def NotFound.message : NotFound → Text
  | .extension e => "No language profile for extension '".toList ++ e ++ ['\'']
  | .language name => "Unknown language '".toList ++ name ++ ['\'']

/-- A registry without profiles. -/
def empty : Registry := {}

/-- A registry with one more profile, which takes over its name and its extensions. -/
def register (r : Registry) (p : Profile) : Registry where
  extensions := Assoc.overlay r.extensions (p.extensions.map fun e => (Extension.normalize e, p))
  languages := Assoc.set p.name p r.languages

/-- A registry with more profiles, registered in order. -/
def registerAll (r : Registry) (ps : List Profile) : Registry :=
  ps.foldl register r

/-- The registry of the built-in languages. -/
def builtin : Registry :=
  empty.registerAll Language.builtin

/-- The profile that has an extension. -/
def ofExtension? (r : Registry) (e : Text) : Option Profile :=
  r.extensions.lookup (Extension.normalize e)

/-- The profile that has an extension, or a failure. -/
def ofExtension (r : Registry) (e : Text) : Except NotFound Profile :=
  match r.ofExtension? e with
  | some p => .ok p
  | none => .error (.extension e)

/-- The profile for the suffix of a file; a file without one has none. -/
def ofSuffix? (r : Registry) (suffix : Text) : Option Profile :=
  if suffix.isEmpty then none else r.ofExtension? suffix

/-- The profile of a language: by its exact name, by its name in lower case, or the first whose name
agrees in lower case. -/
def ofLanguage? (r : Registry) (name : Text) : Option Profile :=
  match r.languages.lookup name with
  | some p => some p
  | none =>
    match r.languages.lookup (Text.lower name) with
    | some p => some p
    | none => (r.languages.find? fun l => Text.lower l.1 == Text.lower name).map (·.2)

/-- The profile of a language, or a failure. -/
def ofLanguage (r : Registry) (name : Text) : Except NotFound Profile :=
  match r.ofLanguage? name with
  | some p => .ok p
  | none => .error (.language name)

/-- The names of the languages in the order of first registration. -/
def languageNames (r : Registry) : List Text :=
  r.languages.map (·.1)

/-- The extensions with the languages that have them. -/
def owners (r : Registry) : List (Text × Text) :=
  r.extensions.map fun e => (e.1, e.2.name)

end Registry

end DeclIndex
