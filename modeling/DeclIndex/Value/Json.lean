import DeclIndex.Assoc
import DeclIndex.Text.Number
import DeclIndex.Text.Quoted
import DeclIndex.Value.Basic

/-!
# JSON

Values in the notation of JSON. In texts only quotation marks, backslashes and control characters
are escaped; surrogates, which have no character, are written by number. A reader takes any value at
the top; of two fields with one key the later counts. Integers with too many digits are neither read
nor written, and a reader goes only so deep into lists and objects.

## Main definitions

* `Json.indented`, `Json.compact` — a value written over several lines, and on one.
* `Json.print?` — the text of a value, if its numbers can be written.
* `Json.Fault`, `Json.read` — the value that a text writes, or why there is none.
-/

namespace DeclIndex.Json

/-! ### Writing -/

/-- A character as it stands in a text. -/
def escaped (c : Char) : Text :=
  match c with
  | '"' => ['\\', '"']
  | '\\' => ['\\', '\\']
  | '\n' => ['\\', 'n']
  | '\r' => ['\\', 'r']
  | '\t' => ['\\', 't']
  | '\x08' => ['\\', 'b']
  | '\x0c' => ['\\', 'f']
  | c => if c.toNat < 0x20 then '\\' :: 'u' :: Text.hexDigits 4 c.toNat else [c]

/-- A code point as it stands in a text. -/
def escapedPoint : CodePoint → Text
  | .char c => escaped c
  | .surrogate offset => '\\' :: 'u' :: Text.hexDigits 4 (0xD800 + offset)

/-- A text between quotation marks. -/
def string (t : WideText) : Text :=
  '"' :: t.flatMap escapedPoint ++ ['"']

/-- The white space at the start of a line at a given depth. -/
def newline (depth : Nat) : Text :=
  '\n' :: List.replicate (2 * depth) ' '

mutual

/-- A value over several lines, two blanks for each level of nesting. -/
def indented (depth : Nat) : Value CodePoint → Text
  | .null => "null"
  | .bool true => "true"
  | .bool false => "false"
  | .int n => Text.ofInt n
  | .real written => written
  | .other _ _ => "null"
  | .text t => string t
  | .list [] => "[]"
  | .list (v :: rest) =>
    '[' :: newline (depth + 1) ++ indented (depth + 1) v ++ indentedItems (depth + 1) rest ++
      newline depth ++ [']']
  | .object [] => ['{', '}']
  | .object (f :: rest) =>
    '{' :: newline (depth + 1) ++ indentedField (depth + 1) f ++ indentedFields (depth + 1) rest ++
      newline depth ++ ['}']

/-- Further items, each after a comma. -/
def indentedItems (depth : Nat) : List (Value CodePoint) → Text
  | [] => []
  | v :: rest => ',' :: newline depth ++ indented depth v ++ indentedItems depth rest

/-- Further fields, each after a comma. -/
def indentedFields (depth : Nat) : List (WideText × Value CodePoint) → Text
  | [] => []
  | f :: rest => ',' :: newline depth ++ indentedField depth f ++ indentedFields depth rest

/-- A field. -/
def indentedField (depth : Nat) : WideText × Value CodePoint → Text
  | (key, v) => string key ++ [':', ' '] ++ indented depth v

end

mutual

/-- A value on one line. -/
def compact : Value CodePoint → Text
  | .null => "null"
  | .bool true => "true"
  | .bool false => "false"
  | .int n => Text.ofInt n
  | .real written => written
  | .other _ _ => "null"
  | .text t => string t
  | .list [] => "[]"
  | .list (v :: rest) => '[' :: compact v ++ compactItems rest ++ [']']
  | .object [] => ['{', '}']
  | .object (f :: rest) => '{' :: compactField f ++ compactFields rest ++ ['}']

/-- Further items, each after a comma. -/
def compactItems : List (Value CodePoint) → Text
  | [] => []
  | v :: rest => ',' :: compact v ++ compactItems rest

/-- Further fields, each after a comma. -/
def compactFields : List (WideText × Value CodePoint) → Text
  | [] => []
  | f :: rest => ',' :: compactField f ++ compactFields rest

/-- A field. -/
def compactField : WideText × Value CodePoint → Text
  | (key, v) => string key ++ ':' :: compact v

end

mutual

/-- Whether a value can be written: it has none but the kinds of JSON, and no integer has more than
`digits` digits. -/
def isPrintable {χ : Type} (digits : Nat) : Value χ → Bool
  | .null | .bool _ | .real _ | .text _ => true
  | .int n => n.natAbs < Nat.pow 10 digits
  | .list items => allPrintable digits items
  | .object fields => fieldsPrintable digits fields
  | .other _ _ => false

/-- Whether all items can be written. -/
def allPrintable {χ : Type} (digits : Nat) : List (Value χ) → Bool
  | [] => true
  | v :: rest => isPrintable digits v && allPrintable digits rest

/-- Whether the values of all fields can be written. -/
def fieldsPrintable {χ : Type} (digits : Nat) : List (List χ × Value χ) → Bool
  | [] => true
  | f :: rest => isPrintable digits f.2 && fieldsPrintable digits rest

end

/-- The text of a value over several lines, if it can be written. -/
def print? (v : Value CodePoint) : Option Text :=
  if isPrintable Text.mostDigits v then some (indented 0 v) else none

/-! ### Reading -/

/-- White space between tokens. -/
def isSpace (c : Char) : Bool :=
  c == ' ' || c == '\t' || c == '\n' || c == '\r'

/-- The text without the white space it begins with. -/
def skip (t : Text) : Text :=
  t.dropWhile isSpace

/-- The value of four hexadecimal digits, and the rest. -/
def unit? (t : Text) : Option (Nat × Text) :=
  let digits := (t.take 4).filterMap Text.hexValue?
  if digits.length = 4 then some (Text.readNat 16 digits, t.drop 4) else none

/-- The code point that a numbered escape begins, with the second half of a pair of surrogates. -/
def numbered? (t : Text) : Option (CodePoint × Text) :=
  match unit? t with
  | none => none
  | some (high, rest) =>
    match rest with
    | '\\' :: 'u' :: more =>
      if 0xD800 ≤ high && high ≤ 0xDBFF then
        match unit? more with
        | some (low, after) =>
          if 0xDC00 ≤ low && low ≤ 0xDFFF then
            some (.char (Char.ofNat (0x10000 + (high - 0xD800) * 0x400 + (low - 0xDC00))), after)
          else some (.ofUnit high, rest)
        | none => some (.ofUnit high, rest)
      else some (.ofUnit high, rest)
    | _ => some (.ofUnit high, rest)

/-- The character of a short escape. -/
def shortEscape? (c : Char) : Option Char :=
  match c with
  | '"' => some '"'
  | '\\' => some '\\'
  | '/' => some '/'
  | 'b' => some '\x08'
  | 'f' => some '\x0c'
  | 'n' => some '\n'
  | 'r' => some '\r'
  | 't' => some '\t'
  | _ => none

/-- A text after its opening quotation mark, and the rest; `fuel` bounds its length. -/
def string? : Nat → Text → Option (WideText × Text)
  | 0, _ => none
  | _ + 1, [] => none
  | _ + 1, '"' :: rest => some ([], rest)
  | fuel + 1, '\\' :: 'u' :: rest =>
    match numbered? rest with
    | none => none
    | some (p, rest) => (string? fuel rest).map fun (t, rest) => (p :: t, rest)
  | _ + 1, ['\\'] => none
  | fuel + 1, '\\' :: c :: rest =>
    match shortEscape? c with
    | none => none
    | some c => (string? fuel rest).map fun (t, rest) => (.char c :: t, rest)
  | fuel + 1, c :: rest =>
    if c.toNat < 0x20 then none else (string? fuel rest).map fun (t, rest) => (.char c :: t, rest)

/-- The digits that a text begins with, at least one, and the rest. -/
def digits? (t : Text) : Option (Text × Text) :=
  let digits := t.takeWhile Char.isDigit
  if digits.isEmpty then none else some (digits, t.drop digits.length)

/-- The whole part of a number: zero, or digits that do not begin with zero. -/
def whole? : Text → Option (Text × Text)
  | '0' :: rest => some (['0'], rest)
  | t => digits? t

/-- The fraction of a number, empty if there is none. -/
def fraction (t : Text) : Text × Text :=
  match t with
  | '.' :: rest =>
    match digits? rest with
    | some (digits, rest) => ('.' :: digits, rest)
    | none => ([], t)
  | _ => ([], t)

/-- The exponent of a number, empty if there is none. -/
def exponent (t : Text) : Text × Text :=
  match t with
  | c :: rest =>
    if c = 'e' || c = 'E' then
      let sign := (rest.take 1).filter fun s => s == '+' || s == '-'
      match digits? (rest.drop sign.length) with
      | some (digits, rest) => (c :: sign ++ digits, rest)
      | none => ([], t)
    else ([], t)
  | [] => ([], t)

/-- The value of ASCII digits. -/
def natOf (digits : Text) : Nat :=
  Text.readNat 10 (digits.map fun c => c.toNat - 48)

/-- Why a text writes no value that can be read. -/
inductive Fault
  /-- The text is not one of JSON. -/
  | malformed
  /-- An integer has too many digits. -/
  | tooLong
  /-- Lists and objects lie too deep in one another. -/
  | tooDeep
  deriving DecidableEq, Repr

/-- What was read, or the fault that there is nothing to be read. -/
def found {α : Type} : Option α → Except Fault α
  | some a => .ok a
  | none => .error .malformed

/-- A number without its sign, and the rest; an integer may have no more than `digits` digits. -/
def number (digits : Nat) (negative : Bool) (t : Text) : Except Fault (Value CodePoint × Text) :=
  match whole? t with
  | none => .error .malformed
  | some (whole, rest) =>
    let (fraction, rest) := fraction rest
    let (exponent, rest) := exponent rest
    if fraction.isEmpty && exponent.isEmpty then
      if Nat.pow 10 digits ≤ natOf whole then .error .tooLong
      else .ok (.int (if negative then -Int.ofNat (natOf whole) else Int.ofNat (natOf whole)), rest)
    else .ok (.real ((if negative then ['-'] else []) ++ whole ++ fraction ++ exponent), rest)

/-- A word that stands for a value. -/
def word? (t : Text) : Option (Value CodePoint × Text) :=
  [("null".toList, Value.null), ("true".toList, .bool true), ("false".toList, .bool false),
    ("NaN".toList, .real "NaN"), ("Infinity".toList, .real "Infinity"),
    ("-Infinity".toList, .real "-Infinity")].findSome? fun (word, v) =>
      if t.startsWith word then some (v, t.drop word.length) else none

mutual

/-- A value, and the rest. No more than `levels` lists and objects may lie in one another; `fuel`
bounds the number of tokens. -/
def value (digits : Nat) : Nat → Nat → Text → Except Fault (Value CodePoint × Text)
  | _, 0, _ => .error .malformed
  | levels, fuel + 1, t =>
    match t with
    | '"' :: rest => found ((string? (rest.length + 1) rest).map fun (t, rest) => (.text t, rest))
    | '[' :: rest =>
      match levels with
      | 0 => .error .tooDeep
      | levels + 1 =>
        match skip rest with
        | ']' :: rest => .ok (.list [], rest)
        | rest => (items digits levels fuel rest).map fun (vs, rest) => (.list vs, rest)
    | '{' :: rest =>
      match levels with
      | 0 => .error .tooDeep
      | levels + 1 =>
        match skip rest with
        | '}' :: rest => .ok (.object [], rest)
        | rest => (fields digits levels fuel [] rest).map fun (fs, rest) => (.object fs, rest)
    | t =>
      match word? t with
      | some r => .ok r
      | none =>
        match t with
        | '-' :: rest => number digits true rest
        | t => number digits false t

/-- The items of a list through its closing bracket. -/
def items (digits : Nat) : Nat → Nat → Text → Except Fault (List (Value CodePoint) × Text)
  | _, 0, _ => .error .malformed
  | levels, fuel + 1, t =>
    match value digits levels fuel t with
    | .error fault => .error fault
    | .ok (v, rest) =>
      match skip rest with
      | ']' :: rest => .ok ([v], rest)
      | ',' :: rest =>
        (items digits levels fuel (skip rest)).map fun (vs, rest) => (v :: vs, rest)
      | _ => .error .malformed

/-- The fields of an object through its closing brace, added to those read before. -/
def fields (digits : Nat) : Nat → Nat → List (WideText × Value CodePoint) → Text →
    Except Fault (List (WideText × Value CodePoint) × Text)
  | _, 0, _, _ => .error .malformed
  | levels, fuel + 1, before, t =>
    match t with
    | '"' :: rest =>
      match string? (rest.length + 1) rest with
      | none => .error .malformed
      | some (key, rest) =>
        match skip rest with
        | ':' :: rest =>
          match value digits levels fuel (skip rest) with
          | .error fault => .error fault
          | .ok (v, rest) =>
            let fs := Assoc.set key v before
            match skip rest with
            | '}' :: rest => .ok (fs, rest)
            | ',' :: rest => fields digits levels fuel fs (skip rest)
            | _ => .error .malformed
        | _ => .error .malformed
    | _ => .error .malformed

end

/-- The value that a text writes, as long as its integers have no more than `digits` digits and no
more than `levels` lists and objects lie in one another. -/
def readWithin (digits levels : Nat) (t : Text) : Except Fault (Value CodePoint) :=
  match value digits levels (2 * t.length + 2) (skip t) with
  | .error fault => .error fault
  | .ok (v, rest) => if (skip rest).isEmpty then .ok v else .error .malformed

/-- The value that a text writes. -/
def read (levels : Nat) (t : Text) : Except Fault (Value CodePoint) :=
  readWithin Text.mostDigits levels t

end DeclIndex.Json
