import DeclIndex.Text.Basic

/-!
# Paths

A path is a root, empty for a relative path, and names. Empty names and single dots say nothing and
are left out; two dots stay, since only a directory tells where they lead.

## Main definitions

* `Path` — a path.
* `Path.ofText`, `Path.text` — the path that a text writes, and its text.
* `Path.suffix` — the ending of the last name that tells the kind of a file.
* `Path.absolute` — the path from the root, seen from a working directory.
-/

namespace DeclIndex

/-- A path: a root, which is empty or made of slashes, and names. -/
structure Path where
  root : Text := []
  names : List Text := []
  deriving DecidableEq, Repr

namespace Path

/-- The name of the directory that holds the one it stands in. -/
def parentName : Text :=
  ['.', '.']

/-! ### Reading and writing -/

/-- The parts of a text between slashes, also the empty ones. -/
def segments : Text → List Text
  | [] => [[]]
  | c :: rest =>
    if c = '/' then [] :: segments rest
    else
      match segments rest with
      | [] => [[c]]
      | s :: ss => (c :: s) :: ss

/-- Whether a part of a text says where a path leads. -/
def isName (s : Text) : Bool :=
  !s.isEmpty && s != ['.']

/-- The root of a text: exactly two slashes at the start stand for themselves, any other number of
them for one. -/
def rootOf (t : Text) : Text :=
  match t.takeWhile (· == '/') with
  | [] => []
  | ['/', '/'] => ['/', '/']
  | _ => ['/']

/-- The path that a text writes. -/
def ofText (t : Text) : Path where
  root := rootOf t
  names := (segments t).filter isName

/-- The text of a path; that of the empty path is a dot. -/
def text (p : Path) : Text :=
  if p.root.isEmpty && p.names.isEmpty then ['.'] else p.root ++ Text.joinWith ['/'] p.names

/-- The root, if there is one, and the names. -/
def parts (p : Path) : List Text :=
  if p.root.isEmpty then p.names else p.root :: p.names

/-- The path with names added at its end. -/
def join (p : Path) (names : List Text) : Path :=
  { p with names := p.names ++ names }

/-! ### Suffixes -/

/-- The text from its last dot on; nothing if it has none. -/
def fromLastDot (name : Text) : Text :=
  let after := (name.reverse.takeWhile (· != '.')).reverse
  if after.length < name.length then '.' :: after else []

/-- The suffix of a name: what follows its last dot, with the dot, unless the dot begins or ends
the name. -/
def nameSuffix (name : Text) : Text :=
  let suffix := fromLastDot name
  if suffix.length < 2 || suffix.length = name.length then [] else suffix

/-- The suffix of the last name. -/
def suffix (p : Path) : Text :=
  nameSuffix (p.names.getLast?.getD [])

/-! ### Absolute paths -/

/-- Names with every pair of dots taking the name before it away; `done` holds the names before, the
last first. -/
def collapse : List Text → List Text → List Text
  | done, [] => done.reverse
  | done, name :: rest =>
    if name = parentName then collapse (done.drop 1) rest else collapse (name :: done) rest

/-- The path from the root, seen from the directory `here`, without pairs of dots. -/
def absolute (p here : Path) : Path :=
  if p.root.isEmpty then { root := here.root, names := collapse [] (here.names ++ p.names) }
  else { root := p.root, names := collapse [] p.names }

end Path

end DeclIndex
