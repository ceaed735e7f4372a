import DeclIndex.Pattern.Basic
import DeclIndex.Text.CharacterNames
import DeclIndex.Text.Number

/-!
# Tokens of the pattern notation

The notation in which patterns are written is read in two steps. This module cuts the written form
into tokens; `DeclIndex.Pattern.Reader` puts tokens together. What a token is depends on the text
alone and on whether white space and `#` comments are skipped at this place.

## Main definitions

* `Pattern.Fault` — what can be wrong with a written pattern.
* `Pattern.Token`, `Pattern.Opening` — the tokens, and what opens a group.
* `Pattern.nextToken` — the first token of a text that is not empty, and the rest.
-/

namespace DeclIndex.Pattern

/-- What can be wrong with a written pattern. -/
inductive Fault
  /-- A backslash that escapes nothing, or an escape without meaning. -/
  | badEscape
  /-- A class without its closing bracket. -/
  | openClass
  /-- A range whose ends are no characters, or in the wrong order. -/
  | badRange
  /-- A repetition at the start of an alternative or after an anchor. -/
  | nothingToRepeat
  /-- A repetition of a repetition. -/
  | repeatedTwice
  /-- Bounds in the wrong order. -/
  | badBounds
  /-- A bound beyond 2³² - 2. -/
  | boundTooLarge
  /-- A bound with too many digits to be read. -/
  | boundTooLong
  /-- A group without its closing parenthesis. -/
  | openGroup
  /-- A closing parenthesis too many. -/
  | extraClosing
  /-- A group name that is no identifier. -/
  | badName
  /-- A group name given twice. -/
  | nameTaken
  /-- A reference to a group that does not exist. -/
  | unknownGroup
  /-- A reference to a group from inside it, or from look-behind to a group of the same. -/
  | groupNotClosed
  /-- Something unknown after `(?`. -/
  | unknownExtension
  /-- Flags that are unknown, contradictory or incomplete. -/
  | badFlags
  /-- Flags for the whole pattern that do not stand at its start. -/
  | flagsNotFirst
  /-- Look-behind whose width varies. -/
  | varyingWidth
  /-- A condition with more than two branches. -/
  | tooManyBranches
  /-- A repetition that a flag forbids. -/
  | loopForbidden
  deriving DecidableEq, Repr

/-- How often a loop prefers to run. -/
inductive Preference
  | greedy
  | reluctant
  | possessive
  deriving DecidableEq, Repr

/-- What opens a group. -/
inductive Opening
  | capture (name : Option Text)
  | plain
  | atomic
  | ahead
  | notAhead
  | behind
  | notBehind
  | ifNumber (i : Nat)
  | ifName (name : Text)
  | flags (on off : List Char)
  deriving DecidableEq, Repr

/-- The tokens. -/
inductive Token
  /-- White space or a comment. -/
  | nothing
  /-- An expression of its own. -/
  | item (e : Expr)
  /-- A condition on the position. -/
  | anchor (a : Anchor)
  /-- `.` -/
  | dot
  /-- `^` -/
  | caret
  /-- `$` -/
  | dollar
  | bar
  | opening (o : Opening)
  | closing
  | reference (i : Nat)
  | namedReference (name : Text)
  | loop (least : Nat) (most : Option Nat) (preference : Preference)
  /-- Flags for the whole pattern. -/
  | setFlags (on : List Char)
  deriving DecidableEq, Repr

/-! ### Escapes -/

variable [CharacterNames]

/-- The character with a given code point as an expression; a surrogate matches nothing. -/
def exprOfCode (n : Nat) : Expr :=
  if n.isValidChar then .char (Char.ofNat n) else .set false []

/-- Exactly `count` hexadecimal digits and the rest. -/
def hexCode? (count : Nat) (t : Text) : Option (Nat × Text) :=
  let digits := (t.take count).filterMap Text.hexValue?
  if digits.length = count then some (Text.readNat 16 digits, t.drop count) else none

/-- An octal digit. -/
def isOctal (c : Char) : Bool :=
  '0' ≤ c && c ≤ '7'

/-- The code of octal digits. -/
def octalCode (digits : Text) : Nat :=
  Text.readNat 8 (digits.map fun c => c.toNat - 48)

/-- The control characters that have a letter. -/
def controlOf? (c : Char) : Option Char :=
  match c with
  | 'a' => some '\x07'
  | 'f' => some '\x0c'
  | 'n' => some '\n'
  | 'r' => some '\r'
  | 't' => some '\t'
  | 'v' => some '\x0b'
  | _ => none

/-- The class of characters that has a letter. -/
def kindOf? (c : Char) : Option Member :=
  match c with
  | 'd' => some (.kind .digit false)
  | 'D' => some (.kind .digit true)
  | 's' => some (.kind .blank false)
  | 'S' => some (.kind .blank true)
  | 'w' => some (.kind .word false)
  | 'W' => some (.kind .word true)
  | _ => none

/-- The text up to a closing character, and what follows that character. -/
def untilChar? (stop : Char) : Text → Option (Text × Text)
  | [] => none
  | c :: rest =>
    if c = stop then some ([], rest)
    else (untilChar? stop rest).map fun (t, rest) => (c :: t, rest)

/-- The code point of a character by its name, which stands in braces. -/
def namedCode : Text → Except Fault (Nat × Text)
  | '{' :: t =>
    match untilChar? '}' t with
    | some (d :: name, rest) =>
      match CharacterNames.lookup (d :: name) with
      | some c => .ok (c.toNat, rest)
      | none => .error .badEscape
    | _ => .error .badEscape
  | _ => .error .badEscape

/-- The code point that an escape gives by number or by name, or the character after the backslash
itself. -/
def codeOfEscape (c : Char) (rest : Text) : Except Fault (Nat × Text) :=
  match controlOf? c with
  | some d => .ok (d.toNat, rest)
  | none =>
    if c = 'N' then namedCode rest
    else if c = 'x' then (hexCode? 2 rest).elim (.error .badEscape) .ok
    else if c = 'u' then (hexCode? 4 rest).elim (.error .badEscape) .ok
    else if c = 'U' then
      match hexCode? 8 rest with
      | some (n, rest) => if n < 0x110000 then .ok (n, rest) else .error .badEscape
      | none => .error .badEscape
    else if c.isAlphanum then .error .badEscape
    else .ok (c.toNat, rest)

/-- An escape outside a class, after its backslash. -/
def escapeToken : Text → Except Fault (Token × Text)
  | [] => .error .badEscape
  | c :: rest =>
    match kindOf? c with
    | some m => .ok (.item (.set false [m]), rest)
    | none =>
      if c = 'A' then .ok (.anchor .textStart, rest)
      else if c = 'Z' then .ok (.anchor .textEnd, rest)
      else if c = 'b' then .ok (.anchor .wordEdge, rest)
      else if c = 'B' then .ok (.anchor .noWordEdge, rest)
      else if c = '0' then
        let digits := (rest.take 2).takeWhile isOctal
        .ok (.item (exprOfCode (octalCode digits)), rest.drop digits.length)
      else if c.isDigit then
        match rest with
        | d :: rest =>
          if d.isDigit then
            match rest with
            | e :: rest' =>
              if isOctal c && isOctal d && isOctal e then
                if octalCode [c, d, e] ≤ 0o377 then
                  .ok (.item (exprOfCode (octalCode [c, d, e])), rest')
                else .error .badEscape
              else .ok (.reference (Text.readNat 10 [c.toNat - 48, d.toNat - 48]), e :: rest')
            | [] => .ok (.reference (Text.readNat 10 [c.toNat - 48, d.toNat - 48]), [])
          else .ok (.reference (c.toNat - 48), d :: rest)
        | [] => .ok (.reference (c.toNat - 48), [])
      else (codeOfEscape c rest).map fun (n, rest) => (.item (exprOfCode n), rest)

/-! ### Classes -/

/-- One end of a range: a code point, or a named class, which ends no range. -/
inductive ClassAtom
  | code (n : Nat)
  | kind (m : Member)
  deriving DecidableEq, Repr

/-- An escape inside a class, after its backslash. -/
def escapeInClass : Text → Except Fault (ClassAtom × Text)
  | [] => .error .badEscape
  | c :: rest =>
    match kindOf? c with
    | some m => .ok (.kind m, rest)
    | none =>
      if c = 'b' then .ok (.code 8, rest)
      else if isOctal c then
        let digits := c :: (rest.take 2).takeWhile isOctal
        if octalCode digits ≤ 0o377 then
          .ok (.code (octalCode digits), rest.drop (digits.length - 1))
        else .error .badEscape
      else (codeOfEscape c rest).map fun (n, rest) => (.code n, rest)

/-- The atom that begins with `c`. -/
def classAtom (c : Char) (rest : Text) : Except Fault (ClassAtom × Text) :=
  if c = '\\' then escapeInClass rest else .ok (.code c.toNat, rest)

/-- The members that an atom alone stands for; a surrogate stands for none. -/
def ClassAtom.members : ClassAtom → List Member
  | .code n => if n.isValidChar then [.char (Char.ofNat n)] else []
  | .kind m => [m]

/-- The members of a range between two code points; surrogates are left out. -/
def rangeMembers (low high : Nat) : List Member :=
  let first := if 0xD800 ≤ low && low ≤ 0xDFFF then 0xE000 else low
  let last := if 0xD800 ≤ high && high ≤ 0xDFFF then 0xD7FF else high
  if first ≤ last then [.range (Char.ofNat first) (Char.ofNat last)] else []

/-- The range between two atoms. -/
def rangeOf : ClassAtom → ClassAtom → Except Fault (List Member)
  | .code low, .code high => if high < low then .error .badRange else .ok (rangeMembers low high)
  | _, _ => .error .badRange

/-- The members of a class and what follows its closing bracket. `fresh` says that no member has
been read, so that a closing bracket is one. -/
def classMembers : Nat → Bool → Text → Except Fault (List Member × Text)
  | 0, _, _ => .error .openClass
  | _ + 1, _, [] => .error .openClass
  | fuel + 1, fresh, c :: rest =>
    if c = ']' && !fresh then .ok ([], rest)
    else
      match classAtom c rest with
      | .error fault => .error fault
      | .ok (atom, '-' :: ']' :: rest) => .ok (atom.members ++ [.char '-'], rest)
      | .ok (_, ['-']) => .error .openClass
      | .ok (atom, '-' :: d :: rest) =>
        match classAtom d rest with
        | .error fault => .error fault
        | .ok (last, rest) =>
          match rangeOf atom last, classMembers fuel false rest with
          | .error fault, _ => .error fault
          | _, .error fault => .error fault
          | .ok members, .ok (more, rest) => .ok (members ++ more, rest)
      | .ok (atom, rest) =>
        (classMembers fuel false rest).map fun (more, rest) => (atom.members ++ more, rest)

/-- The expression of a class. A single character is that character, or all others. -/
def classExpr (inverted : Bool) : List Member → Expr
  | [.char c] => if inverted then .set true [.char c] else .char c
  | members => .set inverted members

/-- A class, after its opening bracket. -/
def classToken (t : Text) : Except Fault (Token × Text) :=
  let inverted := t.head? == some '^'
  let body := if inverted then t.tail else t
  (classMembers (body.length + 1) true body).map fun (members, rest) =>
    (.item (classExpr inverted members), rest)

/-! ### Repetition -/

/-- The least number of rounds that can no longer be written. -/
def boundLimit : Nat := 4294967295

/-- The preference of a loop, by the character after it. -/
def withPreference (least : Nat) (most : Option Nat) : Text → Token × Text
  | '?' :: rest => (.loop least most .reluctant, rest)
  | '+' :: rest => (.loop least most .possessive, rest)
  | rest => (.loop least most .greedy, rest)

/-- The bound that ASCII digits write, none if there are no digits. -/
def boundOf (digits : Text) : Except Fault (Option Nat) :=
  if digits.isEmpty then .ok none
  else if Text.mostDigits < digits.length then .error .boundTooLong
  else
    let n := Text.readNat 10 (digits.map fun c => c.toNat - 48)
    if boundLimit ≤ n then .error .boundTooLarge else .ok (some n)

/-- A loop with the bounds written. -/
def boundedLoop (low high : Text) (rest : Text) : Except Fault (Token × Text) :=
  match boundOf low, boundOf high with
  | .error fault, _ => .error fault
  | _, .error fault => .error fault
  | .ok low, .ok high =>
    if high.any fun n => n < low.getD 0 then .error .badBounds
    else .ok (withPreference (low.getD 0) high rest)

/-- Bounds after an opening brace; what is no pair of bounds is the brace itself. -/
def boundsToken (t : Text) : Except Fault (Token × Text) :=
  let low := t.takeWhile Char.isDigit
  match t.dropWhile Char.isDigit with
  | '}' :: rest => if low.isEmpty then .ok (.item (.char '{'), t) else boundedLoop low low rest
  | ',' :: rest =>
    let high := rest.takeWhile Char.isDigit
    match rest.dropWhile Char.isDigit with
    | '}' :: rest => boundedLoop low high rest
    | _ => .ok (.item (.char '{'), t)
  | _ => .ok (.item (.char '{'), t)

/-! ### Groups -/

/-- An identifier up to a closing character. -/
def nameUntil (stop : Char) (t : Text) : Except Fault (Text × Text) :=
  match untilChar? stop t with
  | none => .error .badName
  | some (name, rest) => if Text.isIdentifier name then .ok (name, rest) else .error .badName

/-- What follows a comment in a group; a character after a backslash does not end it. -/
def skipComment : Text → Except Fault Text
  | [] => .error .openGroup
  | ['\\'] => .error .badEscape
  | '\\' :: _ :: rest => skipComment rest
  | ')' :: rest => .ok rest
  | _ :: rest => skipComment rest

/-- The letters that are flags. -/
def isFlag (c : Char) : Bool :=
  "aiLmstux".toList.contains c

/-- Flags that say which characters count as letters: at most one, and none may be taken back. -/
def isTypeFlag (c : Char) : Bool :=
  c == 'a' || c == 'L' || c == 'u'

/-- Flags of which `L` is for bytes only and at most one says which characters are letters. -/
def flagsAgree (on : List Char) : Bool :=
  !on.contains 'L' && !(on.contains 'a' && on.contains 'u')

/-- A group that begins with flags: for the whole pattern, or for the group. -/
def flagsToken (t : Text) : Except Fault (Token × Text) :=
  let on := t.takeWhile isFlag
  if !flagsAgree on then .error .badFlags
  else
    match t.dropWhile isFlag with
    | ')' :: rest => if on.isEmpty then .error .badFlags else .ok (.setFlags on, rest)
    | ':' :: rest =>
      if on.contains 't' then .error .badFlags else .ok (.opening (.flags on []), rest)
    | '-' :: rest =>
      let off := rest.takeWhile isFlag
      match rest.dropWhile isFlag with
      | ':' :: rest =>
        if off.isEmpty || off.any isTypeFlag || on.contains 't' || off.contains 't' ||
            on.any off.contains then
          .error .badFlags
        else .ok (.opening (.flags on off), rest)
      | _ => .error .badFlags
    | _ => .error .badFlags

/-- A condition on a group, after its opening parenthesis. -/
def conditionToken (t : Text) : Except Fault (Token × Text) :=
  match untilChar? ')' t with
  | none => .error .badName
  | some (name, rest) =>
    if Text.isIdentifier name then .ok (.opening (.ifName name), rest)
    else
      match Text.readInt? name with
      | some (.ofNat (i + 1)) => .ok (.opening (.ifNumber (i + 1)), rest)
      | _ => .error .badName

/-- What stands after an opening parenthesis. -/
def groupToken : Text → Except Fault (Token × Text)
  | '?' :: 'P' :: '<' :: t =>
    (nameUntil '>' t).map fun (name, rest) => (.opening (.capture (some name)), rest)
  | '?' :: 'P' :: '=' :: t =>
    (nameUntil ')' t).map fun (name, rest) => (.namedReference name, rest)
  | '?' :: ':' :: t => .ok (.opening .plain, t)
  | '?' :: '>' :: t => .ok (.opening .atomic, t)
  | '?' :: '=' :: t => .ok (.opening .ahead, t)
  | '?' :: '!' :: t => .ok (.opening .notAhead, t)
  | '?' :: '<' :: '=' :: t => .ok (.opening .behind, t)
  | '?' :: '<' :: '!' :: t => .ok (.opening .notBehind, t)
  | '?' :: '#' :: t => (skipComment t).map fun rest => (.nothing, rest)
  | '?' :: '(' :: t => conditionToken t
  | '?' :: c :: t => if isFlag c || c == '-' then flagsToken (c :: t) else .error .unknownExtension
  | ['?'] => .error .openGroup
  | t => .ok (.opening (.capture none), t)

/-! ### All together -/

/-- The white space that is skipped where white space is. -/
def isSkipped (c : Char) : Bool :=
  c == ' ' || (0x09 ≤ c.toNat && c.toNat ≤ 0x0D)

/-- What follows a comment at the end of a line; a character after a backslash does not end it. -/
def skipLine : Text → Except Fault Text
  | [] => .ok []
  | ['\\'] => .error .badEscape
  | '\\' :: _ :: rest => skipLine rest
  | '\n' :: rest => .ok rest
  | _ :: rest => skipLine rest

/-- The token that begins with `c`, and the rest. -/
def nextToken (spaced : Bool) (c : Char) (rest : Text) : Except Fault (Token × Text) :=
  if spaced && isSkipped c then .ok (.nothing, rest)
  else if spaced && c == '#' then (skipLine rest).map fun rest => (.nothing, rest)
  else
    match c with
    | '\\' => escapeToken rest
    | '[' => classToken rest
    | '(' => groupToken rest
    | ')' => .ok (.closing, rest)
    | '|' => .ok (.bar, rest)
    | '.' => .ok (.dot, rest)
    | '^' => .ok (.caret, rest)
    | '$' => .ok (.dollar, rest)
    | '*' => .ok (withPreference 0 none rest)
    | '+' => .ok (withPreference 1 none rest)
    | '?' => .ok (withPreference 0 (some 1) rest)
    | '{' => boundsToken rest
    | c => .ok (.item (.char c), rest)

end DeclIndex.Pattern
