import DeclIndex.Directory
import DeclIndex.Text.Number
import DeclIndex.Value.Basic

/-!
# Directories as values

A directory as an object: each path with a text, with bytes in hexadecimal digits under `hex`, or
with null for an empty directory.

## Main definitions

* `Directory.ofValue` — the directory that an object lists.
* `Directory.toValue` — the object that lists a directory.
-/

namespace DeclIndex.Directory

/-- The bytes of hexadecimal digits. -/
def bytesOfHex : Text → Bytes
  | a :: b :: rest =>
    UInt8.ofNat (Text.readNat 16 ([a, b].filterMap Text.hexValue?)) :: bytesOfHex rest
  | _ => []

/-- A directory with one more entry of a list. -/
def add (d : Directory) (path : Text) (v : Value) : Directory :=
  let names := (Path.ofText path).names
  match v with
  | .null => d.makeDir names
  | .text t => d.write (Utf8.encode t) names
  | v => d.write (bytesOfHex ((v.field? "hex").getD .null).textD) names

/-- A directory with the entries of an object added. -/
def addAll (d : Directory) : Value → Directory
  | .object fields => fields.foldl (fun d f => d.add f.1 f.2) d
  | _ => d

/-- The directory that an object lists. -/
def ofValue (v : Value) : Directory :=
  addAll .empty v

/-- The value for a file; null if its bytes are not to be had. -/
def ofFile (file : File) : Value :=
  match file.content with
  | .error _ => .null
  | .ok content =>
    match Utf8.decode content with
    | .ok t => .text t
    | .error _ => .record [("hex", .text (content.flatMap fun b => Text.hexDigits 2 b.toNat))]

/-- The entries of a directory with their paths below `above`. -/
def entries (above : List Text) : Directory → List (Text × Value)
  | .empty => []
  | .file name f others =>
    (Text.joinWith ['/'] (above ++ [name]), ofFile f) :: entries above others
  | .dir name inside others =>
    (match entries (above ++ [name]) inside with
      | [] => [(Text.joinWith ['/'] (above ++ [name]), .null)]
      | es => es) ++ entries above others

/-- The object that lists a directory. -/
def toValue (d : Directory) : Value :=
  .object (entries [] d)

end DeclIndex.Directory
