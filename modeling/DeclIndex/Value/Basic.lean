import DeclIndex.Text.Wide
import DeclIndex.Value.Double

/-!
# Values

The values that configuration files hold. Real numbers are kept as they are written.

The texts of a value are made of characters or, where halves of characters can occur, of code
points. A value of the first kind is one of the second (`Value.wide`), but not the other way round
(`Value.narrow?`).

## Main definitions

* `Value` — a value.
* `Value.field?` — the value of a field of an object.
* `Value.isBlank` — whether a value counts as absent.
-/

namespace DeclIndex

/-- A value of a configuration file, whose texts are made of `χ`. -/
inductive Value (χ : Type := Char)
  | null
  | bool (b : Bool)
  | int (n : Int)
  /-- A real number as it is written. -/
  | real (written : Text)
  | text (t : List χ)
  | list (items : List (Value χ))
  | object (fields : List (List χ × Value χ))
  /-- A value of a kind that JSON does not have: the word for the kind, and whether the value counts
  as absent. -/
  | other (kind : Text) (blank : Bool)
  deriving Repr, Inhabited

namespace Value

variable {χ : Type}

/-- A text given by a literal. -/
def ofString (s : String) : Value :=
  .text s.toList

/-- An object whose keys are given by literals. -/
def record (fields : List (String × Value)) : Value :=
  .object (fields.map fun f => (f.1.toList, f.2))

/-- The text that a value is. -/
def text? : Value χ → Option (List χ)
  | .text t => some t
  | _ => none

/-- The text, or nothing for a value of another kind. -/
def textD (v : Value χ) : List χ :=
  v.text?.getD []

/-- The value of a field of an object. -/
def field? [BEq χ] (v : Value χ) (key : List χ) : Option (Value χ) :=
  match v with
  | .object fields => fields.lookup key
  | _ => none

/-- The items of a list. -/
def items? : Value χ → Option (List (Value χ))
  | .list items => some items
  | _ => none

/-- Whether a value counts as absent: null, false, zero, or empty. -/
def isBlank : Value χ → Bool
  | .null => true
  | .bool b => !b
  | .int n => n == 0
  | .real written => (Double.ofText written).isZero
  | .text t => t.isEmpty
  | .list items => items.isEmpty
  | .object fields => fields.isEmpty
  | .other _ blank => blank

/-- The word for the kind of a value. -/
def kindWord : Value χ → Text
  | .null => "NoneType"
  | .bool _ => "bool"
  | .int _ => "int"
  | .real _ => "float"
  | .text _ => "str"
  | .list _ => "list"
  | .object _ => "dict"
  | .other kind _ => kind

/-! ### Wide values -/

mutual

/-- A value with all its texts as texts of code points. -/
def wide : Value → Value CodePoint
  | .null => .null
  | .bool b => .bool b
  | .int n => .int n
  | .real written => .real written
  | .text t => .text (Text.wide t)
  | .list items => .list (wideItems items)
  | .object fields => .object (wideFields fields)
  | .other kind blank => .other kind blank

/-- The items of a list with all their texts as texts of code points. -/
def wideItems : List Value → List (Value CodePoint)
  | [] => []
  | v :: rest => wide v :: wideItems rest

/-- The fields of an object with all their texts as texts of code points. -/
def wideFields : List (Text × Value) → List (WideText × Value CodePoint)
  | [] => []
  | (key, v) :: rest => (Text.wide key, wide v) :: wideFields rest

end

mutual

/-- The value with texts of characters that a wide value is, if there is one. -/
def narrow? : Value CodePoint → Option Value
  | .null => some .null
  | .bool b => some (.bool b)
  | .int n => some (.int n)
  | .real written => some (.real written)
  | .text t => (WideText.narrow? t).map .text
  | .list items => (narrowItems? items).map .list
  | .object fields => (narrowFields? fields).map .object
  | .other kind blank => some (.other kind blank)

/-- The items of a list with texts of characters. -/
def narrowItems? : List (Value CodePoint) → Option (List Value)
  | [] => some []
  | v :: rest => (narrow? v).bind fun v => (narrowItems? rest).map (v :: ·)

/-- The fields of an object with texts of characters. -/
def narrowFields? : List (WideText × Value CodePoint) → Option (List (Text × Value))
  | [] => some []
  | (key, v) :: rest =>
    (WideText.narrow? key).bind fun key => (narrow? v).bind fun v =>
      (narrowFields? rest).map ((key, v) :: ·)

end

end Value

end DeclIndex
