import DeclIndex.Text.Number
import DeclIndex.Value.Basic
import DeclIndex.Value.Yaml.Place

/-!
# Scalars of YAML

Values that are no collections are written plainly or between quotation marks. A plain one may stand
for nothing, a truth value or a number; one between quotation marks is always a text. Both may go
over several lines.

## Main definitions

* `Yaml.plain` — the plain text at a place.
* `Yaml.ofPlain?` — what a plain text stands for.
* `Yaml.single?`, `Yaml.double?` — the text between quotation marks.
-/

namespace DeclIndex.Yaml

/-! ### Plain texts -/

/-- Whether a plain text may begin here. Within brackets fewer characters may begin one. -/
def startsPlain (inFlow : Bool) : Text → Bool
  | [] => false
  | c :: rest =>
    (!isSpace c && !"-?:,[]\x7b\x7d#&*!|>'\"%@\x60".toList.elem c) ||
      ((c == '-' || (!inFlow && (c == '?' || c == ':'))) && !standsAlone rest)

/-- Whether a run of a plain text ends here. -/
def endsRun (inFlow : Bool) : Text → Bool
  | [] => true
  | c :: rest =>
    isSpace c || (inFlow && ",?[]\x7b\x7d".toList.elem c) ||
      (c == ':' && (standsAlone rest ||
        (inFlow && (rest.take 1).any fun d => ",[]\x7b\x7d".toList.elem d)))

/-- The characters up to the end of a run. -/
def takeRun (inFlow : Bool) : Text → Text
  | [] => []
  | c :: rest => if endsRun inFlow (c :: rest) then [] else c :: takeRun inFlow rest

/-- The plain text at a place and the place after it. It goes on over white space unless a comment
follows, or, outside of brackets, a column before `least`; `fuel` bounds the number of runs. -/
def plain (inFlow : Bool) (least : Nat) : Nat → Place → Text × Place
  | 0, p => ([], p)
  | fuel + 1, p =>
    let run := takeRun inFlow p.rest
    let after := p.advance run.length
    let (gap, next) := after.overBlanks (· == ' ')
    if gap.isEmpty || next.isAt ['#'] || (!inFlow && next.column < least) || next.atBoundary ||
        endsRun inFlow next.rest then
      (run, after)
    else
      let (more, last) := plain inFlow least fuel next
      (run ++ gap ++ more, last)

/-! ### What plain texts stand for -/

/-- The truth value that a word stands for. -/
def boolOf? (t : Text) : Option Bool :=
  if ["yes".toList, "Yes".toList, "YES".toList, "true".toList, "True".toList, "TRUE".toList,
      "on".toList, "On".toList, "ON".toList].elem t then some true
  else if ["no".toList, "No".toList, "NO".toList, "false".toList, "False".toList, "FALSE".toList,
      "off".toList, "Off".toList, "OFF".toList].elem t then some false
  else none

/-- Whether a text stands for nothing. -/
def isNull (t : Text) : Bool :=
  t.isEmpty || ["~".toList, "null".toList, "Null".toList, "NULL".toList].elem t

/-- The sign of a number, and the rest. -/
def signed : Text → Bool × Text
  | '-' :: rest => (true, rest)
  | '+' :: rest => (false, rest)
  | t => (false, t)

/-- The digits of a number in a base, with underscores anywhere among them. -/
def digitsIn? (base : Nat) (t : Text) : Option (List Nat) :=
  let digits := t.filter (· != '_')
  let values := digits.filterMap fun c => (Text.hexValue? c).filter (· < base)
  if values.length = digits.length && !values.isEmpty then some values else none

/-- The number written in a base. -/
def natIn? (base : Nat) (t : Text) : Option Nat :=
  (digitsIn? base t).map (Text.readNat base)

/-- The parts of a text between colons. -/
def clockParts : Text → List Text
  | [] => [[]]
  | c :: rest =>
    if c = ':' then [] :: clockParts rest
    else
      match clockParts rest with
      | [] => [[c]]
      | part :: parts => (c :: part) :: parts

/-- A part after the first of a number in base sixty. -/
def sixtieth? (part : Text) : Option Nat :=
  if part.all Char.isDigit && !part.isEmpty && part.length ≤ 2 then
    (natIn? 10 part).filter (· < 60)
  else none

/-- A decimal number, or one in base sixty with colons between its parts. -/
def clock? (t : Text) : Option Nat :=
  match clockParts t with
  | [] => none
  | first :: parts =>
    let values := parts.filterMap sixtieth?
    if values.length = parts.length then
      (natIn? 10 first).map fun n => Text.readNat 60 (n :: values)
    else none

/-- A number without its sign: in base two after `0b`, sixteen after `0x`, eight after `0`, else
ten. -/
def natOf? : Text → Option Nat
  | ['0'] => some 0
  | '0' :: 'b' :: digits => natIn? 2 digits
  | '0' :: 'x' :: digits => natIn? 16 digits
  | '0' :: digits => natIn? 8 ('0' :: digits)
  | '_' :: _ => none
  | t => clock? t

/-- The integer that a plain text stands for. -/
def intOf? (t : Text) : Option Int :=
  let (negative, digits) := signed t
  (natOf? digits).map fun n => if negative then -Int.ofNat n else Int.ofNat n

/-- An exponent: empty, or a letter, a sign and digits. -/
def isExponent : Text → Bool
  | [] => true
  | e :: sign :: digits =>
    (e == 'e' || e == 'E') && (sign == '+' || sign == '-') && !digits.isEmpty &&
      digits.all Char.isDigit
  | _ => false

/-- The digits before the point of a real number, as they are shown. -/
def wholeDigits (t : Text) : Text :=
  match (t.filter (· != '_')).dropWhile (· == '0') with
  | [] => ['0']
  | digits => digits

/-- The digits after the point of a real number, as they are shown. -/
def fractionDigits (t : Text) : Text :=
  match t.filter (· != '_') with
  | [] => ['0']
  | digits => digits

/-- Digits and the underscores among them. -/
def isDigitOrBar (c : Char) : Bool :=
  c.isDigit || c == '_'

/-- A real number without its sign, as it is shown: digits around a point, of which the first is a
digit, and perhaps an exponent. -/
def decimalOf? (t : Text) : Option Text :=
  let whole := t.takeWhile isDigitOrBar
  match t.drop whole.length with
  | '.' :: rest =>
    let fraction := rest.takeWhile isDigitOrBar
    let exponent := rest.drop fraction.length
    let first := (if whole.isEmpty then fraction else whole).take 1
    if isExponent exponent && first.any Char.isDigit then
      some (wholeDigits whole ++ ['.'] ++ fractionDigits fraction ++ exponent)
    else none
  | _ => none

/-- The real number that a plain text stands for, as it is shown. One that begins with its point has
no sign. -/
def realOf? (t : Text) : Option Text :=
  let (negative, size) := signed t
  let sign := if negative then ['-'] else []
  if [".inf".toList, ".Inf".toList, ".INF".toList].elem size then
    some (sign ++ "Infinity".toList)
  else if [".nan".toList, ".NaN".toList, ".NAN".toList].elem t then some "NaN"
  else if size.startsWith ['.'] && !t.startsWith ['.'] then none
  else (decimalOf? size).map fun written => sign ++ written

/-- What a plain text stands for; two words have a meaning that no value has. -/
def ofPlain? (t : Text) : Option Value :=
  if t == "<<".toList || t == ['='] then none
  else if isNull t then some .null
  else
    match boolOf? t, intOf? t, realOf? t with
    | some b, _, _ => some (.bool b)
    | none, some n, _ => some (.int n)
    | none, none, some written => some (.real written)
    | none, none, none => some (.text t)

/-! ### Texts between quotation marks -/

/-- White space other than line breaks. -/
def isGap (c : Char) : Bool :=
  c == ' ' || c == '\t'

/-- The text after its opening apostrophe and the place after the closing one. An apostrophe inside
is written twice; `fuel` bounds the length. -/
def single? : Nat → Place → Option (Text × Place)
  | 0, _ => none
  | fuel + 1, p =>
    match p.rest with
    | [] => none
    | '\'' :: '\'' :: _ => (single? fuel (p.advance 2)).map fun (t, q) => ('\'' :: t, q)
    | '\'' :: _ => some ([], p.advance 1)
    | c :: _ =>
      if isSpace c then
        let (gap, next) := p.overBlanks isGap
        if next.atBoundary then none else (single? fuel next).map fun (t, q) => (gap ++ t, q)
      else (single? fuel (p.advance 1)).map fun (t, q) => (c :: t, q)

/-- The character that a letter stands for after a backslash. -/
def escape? (c : Char) : Option Char :=
  [('0', '\x00'), ('a', '\x07'), ('b', '\x08'), ('t', '\t'), ('\t', '\t'), ('n', '\n'),
    ('v', '\x0b'), ('f', '\x0c'), ('r', '\r'), ('e', '\x1b'), (' ', ' '), ('"', '"'),
    ('\\', '\\'), ('/', '/'), ('N', '\x85'), ('_', '\xa0'), ('L', '\u2028'),
    ('P', '\u2029')].lookup c

/-- How many digits follow a letter after a backslash. -/
def escapeWidth? (c : Char) : Option Nat :=
  [('x', 2), ('u', 4), ('U', 8)].lookup c

/-- The character of a number in hexadecimal digits at the start of a text. -/
def numbered? (width : Nat) (t : Text) : Option Char :=
  let values := (t.take width).filterMap Text.hexValue?
  if values.length = width && (Text.readNat 16 values).isValidChar then
    some (Char.ofNat (Text.readNat 16 values))
  else none

/-- The text after its opening double quote and the place after the closing one, with its escapes;
`fuel` bounds the length. -/
def double? : Nat → Place → Option (Text × Place)
  | 0, _ => none
  | fuel + 1, p =>
    match p.rest with
    | [] => none
    | '"' :: _ => some ([], p.advance 1)
    | ['\\'] => none
    | '\\' :: c :: rest =>
      match escape? c, escapeWidth? c with
      | some d, _ => (double? fuel (p.advance 2)).map fun (t, q) => (d :: t, q)
      | none, some width =>
        match numbered? width rest with
        | some d => (double? fuel (p.advance (width + 2))).map fun (t, q) => (d :: t, q)
        | none => none
      | none, none =>
        if isBreak c then
          let (breaks, next) := Place.blanks isGap (p.line + 1) 0 rest
          if next.atBoundary then none
          else (double? fuel next).map fun (t, q) => (breaks ++ t, q)
        else none
    | c :: _ =>
      if isSpace c then
        let (gap, next) := p.overBlanks isGap
        if next.atBoundary then none else (double? fuel next).map fun (t, q) => (gap ++ t, q)
      else (double? fuel (p.advance 1)).map fun (t, q) => (c :: t, q)

end DeclIndex.Yaml
