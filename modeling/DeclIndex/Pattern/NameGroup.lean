import DeclIndex.Pattern.Reader
import DeclIndex.Text.Quoted

/-!
# The group of the name

A written pattern may leave it to its first group to hold the declared name. This module gives that
group the name `name`, without reading the pattern as a whole: the first opening parenthesis that is
neither escaped, nor in a class, nor followed by a question mark.

## Main definitions

* `Pattern.nameFirstGroup?` — the written pattern with its first unnamed group named.
* `Pattern.nameGroup` — the written pattern with a group called `name`, or what is wrong with it.
-/

namespace DeclIndex.Pattern

/-- Why no group could be named. -/
inductive NameGroupFault
  /-- The text is no pattern. -/
  | invalid (written : Text) (fault : Fault)
  /-- The pattern has no group. -/
  | noGroup (written : Text)
  /-- No parenthesis that could be named was found, and no group has a name. -/
  | notFound
  deriving DecidableEq, Repr

/-- The written pattern with its first unnamed group named; `inClass` says that the text begins
within a class. -/
def nameFirstGroup? : Bool → Text → Option Text
  | _, [] => none
  | _, ['\\'] => none
  | inClass, '\\' :: c :: rest => (nameFirstGroup? inClass rest).map ('\\' :: c :: ·)
  | true, ']' :: rest => (nameFirstGroup? false rest).map (']' :: ·)
  | false, '[' :: '^' :: ']' :: rest => (nameFirstGroup? true rest).map ("[^]".toList ++ ·)
  | false, '[' :: '^' :: rest => (nameFirstGroup? true rest).map ("[^".toList ++ ·)
  | false, '[' :: ']' :: rest => (nameFirstGroup? true rest).map ("[]".toList ++ ·)
  | false, '[' :: rest => (nameFirstGroup? true rest).map ('[' :: ·)
  | false, '(' :: '?' :: rest => (nameFirstGroup? false rest).map ("(?".toList ++ ·)
  | false, '(' :: rest => some ("(?P<name>".toList ++ rest)
  | inClass, c :: rest => (nameFirstGroup? inClass rest).map (c :: ·)

/-- The start of a group with a name. -/
def namedOpening (name : Text) : Text :=
  "(?P<".toList ++ name ++ [ '>' ]

/-- The written pattern with a group called `name`: as it is if there is one, else with the first
unnamed group so called, else with the first named group so called. -/
def nameGroup [CharacterNames] (written : Text) : Except NameGroupFault Text :=
  match read false written with
  | .error fault => .error (.invalid written fault)
  | .ok p =>
    if (p.group? "name").isSome then .ok written
    else if p.groups = 0 then .error (.noGroup written)
    else
      match nameFirstGroup? false written with
      | some renamed => .ok renamed
      | none =>
        match p.names with
        | [] => .error .notFound
        | (first, _) :: _ =>
          .ok (Text.replaceFirst (namedOpening first) (namedOpening "name") written)

end DeclIndex.Pattern
