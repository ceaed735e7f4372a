import DeclIndex.Assoc
import DeclIndex.Text.Number
import DeclIndex.Value.Yaml.Scalar

/-!
# YAML

A reader for a part of YAML, with which the command can be run: mappings and sequences by
indentation or in brackets, plain and quoted scalars, comments, and at most one document. It gives
nothing for a text that is not of this form, such as one with block scalars, anchors or tags. The
program itself takes any reader from its host.

An entry of a mapping that is written by indentation is known by its column. A sequence may begin in
the column of the key that it belongs to.

## Main definitions

* `Yaml.read?` — the value that a text writes.
-/

namespace DeclIndex.Yaml

/-- The text that a key is; collections are no keys. A number or a word is taken as the text that it
is written as. -/
def keyText? : Value → Option Text
  | .null => some "null"
  | .bool true => some "true"
  | .bool false => some "false"
  | .int n => some (Text.ofInt n)
  | .real written => some written
  | .text t => some t
  | .list _ => none
  | .object _ => none
  | .other _ _ => none

/-- Fields with one more, which takes the place of an earlier one of its key. -/
def addField? (key value : Value) (fields : List (Text × Value)) : Option (List (Text × Value)) :=
  (keyText? key).map fun k => Assoc.set k value fields

/-- The scalar at a place, and the place after it. -/
def scalar? (inFlow : Bool) (least : Nat) (p : Place) : Option (Value × Place) :=
  let fuel := p.rest.length + 1
  match p.rest with
  | '\'' :: _ => (single? fuel (p.advance 1)).map fun (t, q) => (.text t, q)
  | '"' :: _ => (double? fuel (p.advance 1)).map fun (t, q) => (.text t, q)
  | rest =>
    if startsPlain inFlow rest then
      let (t, q) := plain inFlow least fuel p
      (ofPlain? t).map fun v => (v, q)
    else none

/-! ### Brackets -/

mutual

/-- The value at a place inside brackets, and the place after it. -/
def flow? : Nat → Place → Option (Value × Place)
  | 0, _ => none
  | fuel + 1, p =>
    if p.isLast then none
    else
      match p.rest with
      | '[' :: _ =>
        (flowItems? fuel [] (p.advance 1).token).map fun (vs, q) => (.list vs.reverse, q)
      | '{' :: _ =>
        (flowFields? fuel [] (p.advance 1).token).map fun (fs, q) => (.object fs, q)
      | _ => scalar? true 0 p

/-- The value after a colon inside brackets: nothing if the entry ends there. -/
def flowValue? : Nat → Char → Place → Option (Value × Place)
  | 0, _, _ => none
  | fuel + 1, closing, p =>
    if p.isAt [','] || p.isAt [closing] then some (.null, p) else flow? fuel p

/-- The items of a sequence through its closing bracket, the last first. An item with a colon after
it is a mapping with one field. -/
def flowItems? : Nat → List Value → Place → Option (List Value × Place)
  | 0, _, _ => none
  | fuel + 1, before, p =>
    if p.isAt [']'] then some (before, p.advance 1)
    else
      match flow? fuel p with
      | none => none
      | some (v, q) =>
        let q := q.token
        if q.isAt [':'] && q.line = p.line then
          match flowValue? fuel ']' (q.advance 1).token with
          | none => none
          | some (w, q) =>
            match addField? v w [] with
            | none => none
            | some fields => flowMoreItems? fuel (.object fields :: before) q.token
        else flowMoreItems? fuel (v :: before) q

/-- The items after one that has been read. -/
def flowMoreItems? : Nat → List Value → Place → Option (List Value × Place)
  | 0, _, _ => none
  | fuel + 1, before, p =>
    if p.isAt [','] then flowItems? fuel before (p.advance 1).token
    else if p.isAt [']'] then some (before, p.advance 1)
    else none

/-- The fields of a mapping through its closing brace. A key without a colon has no value. -/
def flowFields? : Nat → List (Text × Value) → Place → Option (List (Text × Value) × Place)
  | 0, _, _ => none
  | fuel + 1, before, p =>
    if p.isAt ['}'] then some (before, p.advance 1)
    else
      match flow? fuel p with
      | none => none
      | some (k, q) =>
        let q := q.token
        let value :=
          if q.isAt [':'] && q.line = p.line then flowValue? fuel '}' (q.advance 1).token
          else some (.null, q)
        match value with
        | none => none
        | some (v, q) =>
          match addField? k v before with
          | none => none
          | some fields =>
            let q := q.token
            if q.isAt [','] then flowFields? fuel fields (q.advance 1).token
            else if q.isAt ['}'] then some (fields, q.advance 1)
            else none

end

/-! ### Indentation -/

/-- A value that is no collection by indentation, and the place after it. -/
def inline? (least : Nat) (p : Place) : Option (Value × Place) :=
  if p.isAt ['['] || p.isAt ['{'] then flow? (4 * p.rest.length + 4) p else scalar? false least p

/-- Whether the colon of a key that began at `key` stands here. -/
def endsKey (key p : Place) : Bool :=
  p.line = key.line && p.atMark [':']

/-- The next token, which has to stand on another line than the value before it. -/
def lineEnd? (p : Place) : Option Place :=
  let q := p.token
  if q.line = p.line && !q.atEnd then none else some q

mutual

/-- The value at a place where a collection may begin, and the token after it. -/
def block? : Nat → Nat → Place → Option (Value × Place)
  | 0, _, _ => none
  | fuel + 1, least, p =>
    if p.atMark ['-'] then
      (entries? fuel false p.column [] p).map fun (vs, q) => (.list vs.reverse, q)
    else
      match inline? least p with
      | none => none
      | some (v, q) =>
        if endsKey p q.token then
          match fieldValue? fuel p.column q.token with
          | none => none
          | some (w, next) =>
            match addField? v w [] with
            | none => none
            | some fields =>
              (fields? fuel p.column fields next).map fun (fs, q) => (.object fs, q)
        else (lineEnd? q).map fun q => (v, q)

/-- The value after the colon of a key in a column, and the token after it. -/
def fieldValue? : Nat → Nat → Place → Option (Value × Place)
  | 0, _, _ => none
  | fuel + 1, column, colon =>
    let p := (colon.advance 1).token
    if p.isLast then some (.null, p)
    else if p.line = colon.line then
      match inline? (column + 1) p with
      | none => none
      | some (v, q) => (lineEnd? q).map fun q => (v, q)
    else if column < p.column then block? fuel (column + 1) p
    else if p.column = column && p.atMark ['-'] then
      (entries? fuel true column [] p).map fun (vs, q) => (.list vs.reverse, q)
    else some (.null, p)

/-- The fields of a mapping in a column, added to those read before, and the token after them. -/
def fields? : Nat → Nat → List (Text × Value) → Place → Option (List (Text × Value) × Place)
  | 0, _, _, _ => none
  | fuel + 1, column, before, p =>
    if p.isLast || p.column < column then some (before, p)
    else if column < p.column then none
    else
      match inline? (column + 1) p with
      | none => none
      | some (k, q) =>
        if endsKey p q.token then
          match fieldValue? fuel column q.token with
          | none => none
          | some (v, next) =>
            match addField? k v before with
            | none => none
            | some fields => fields? fuel column fields next
        else none

/-- The items of a sequence in a column, the last first, and the token after them. A sequence that
shares its column with a mapping ends at a key. -/
def entries? : Nat → Bool → Nat → List Value → Place → Option (List Value × Place)
  | 0, _, _, _, _ => none
  | fuel + 1, shared, column, before, p =>
    if p.isLast || p.column < column then some (before, p)
    else if column < p.column then none
    else if p.atMark ['-'] then
      let q := (p.advance 1).token
      if !q.isLast && column < q.column then
        match block? fuel (column + 1) q with
        | none => none
        | some (v, next) => entries? fuel shared column (v :: before) next
      else entries? fuel shared column (.null :: before) q
    else if shared then some (before, p)
    else none

end

/-! ### Documents -/

/-- The place where the content of the document begins. -/
def start (t : Text) : Place :=
  (⟨0, 0, if t.startsWith ['\ufeff'] then t.drop 1 else t⟩ : Place).token

/-- Whether nothing follows but marks for the end of the document; `fuel` bounds their number. -/
def isDone : Nat → Place → Bool
  | 0, _ => false
  | fuel + 1, p => p.atEnd || (p.column == 0 && p.atMark "..." && isDone fuel (p.advance 3).token)

/-- The value of a document, and the token after it. After its mark a collection may begin only on
another line. -/
def document? (fuel : Nat) (p : Place) : Option (Value × Place) :=
  if p.column == 0 && p.atMark "---" then
    let q := (p.advance 3).token
    if q.isLast then some (.null, q)
    else if q.line = p.line then
      match inline? 0 q with
      | none => none
      | some (v, r) => (lineEnd? r).map fun r => (v, r)
    else block? fuel 0 q
  else if p.atEnd then some (.null, p)
  else if p.atBoundary then none
  else block? fuel 0 p

/-- The value that a text writes. -/
def read? (t : Text) : Option Value :=
  if t.all isAllowed then
    match document? (4 * t.length + 8) (start t) with
    | some (v, p) => if isDone (t.length + 1) p then some v else none
    | none => none
  else none

end DeclIndex.Yaml
