import DeclIndex.Host
import DeclIndex.Path
import DeclIndex.Text.Quoted
import DeclIndex.Text.Utf8
import DeclIndex.Value.Yaml

/-!
# A host to run on

A host for running the command. It reads a part of YAML and knows a few names of characters; its
limits are those of a stack of a thousand calls and of names of 255 bytes. What the library says of
the program is said for every host.

## Main definitions

* `Host.usual` — the host.
-/

namespace DeclIndex.Host

/-- Some names of characters. -/
def someNames : List (Text × Char) := [
  ("SPACE", ' '), ("NO-BREAK SPACE", '\u00a0'), ("COLON", ':'), ("SEMICOLON", ';'),
  ("HYPHEN-MINUS", '-'), ("EN DASH", '\u2013'), ("EM DASH", '\u2014'), ("BULLET", '\u2022'),
  ("LEFT PARENTHESIS", '('), ("RIGHT PARENTHESIS", ')'), ("SECTION SIGN", '\u00a7')]

/-- How many parentheses of a written pattern are open at once, when `depth` are open before. Where
a parenthesis stands in a class is not looked at. -/
def openAtOnce : Nat → Text → Nat
  | depth, [] => depth
  | depth, ['\\'] => depth
  | depth, '\\' :: _ :: rest => openAtOnce depth rest
  | depth, '(' :: rest => openAtOnce (depth + 1) rest
  | depth, ')' :: rest => max depth (openAtOnce (depth - 1) rest)
  | depth, _ :: rest => openAtOnce depth rest

/-- Whether a name in a path is too long for a file. -/
def hasLongName (path : Text) : Bool :=
  (Path.segments path).any fun name => 255 < (Utf8.encode name).length

/-- A host for running the command. -/
abbrev usual : Host where
  toCharacterNames := .ofTable someNames
  yaml t :=
    match Yaml.read? t with
    | some v => .ok v.wide
    | none => .error .malformed
  levels := 985
  two_le_levels := by decide
  exhausts written := 470 < openAtOnce 0 written
  bars path := hasLongName path
  denies path :=
    if hasLongName path then some ("[Errno 36] File name too long: ".toList ++ Text.quoted path)
    else none

end DeclIndex.Host
