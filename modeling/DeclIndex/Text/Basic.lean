/-!
# Texts

A text is a list of characters, so that every function on it is plain recursion on a list. String
literals are read as texts through a coercion.

## Main definitions

* `Text` — the type, with `startsWith`, `endsWith` and `contains` for its parts.
* `Text.replaceFirst` — replaces the leftmost occurrence of a text.
* `Text.joinWith` — joins texts with a separator between neighbours.
-/

namespace DeclIndex

/-- A text is a list of characters. -/
abbrev Text := List Char

instance : Coe String Text := ⟨String.toList⟩

namespace Text

/-- Whether `t` begins with `head`. -/
def startsWith (t head : Text) : Bool :=
  head.isPrefixOf t

/-- Whether `t` ends with `tail`. -/
def endsWith (t tail : Text) : Bool :=
  tail.isSuffixOf t

/-- Whether `part` stands somewhere in the text. -/
def contains (part : Text) : Text → Bool
  | [] => part.isEmpty
  | c :: rest => part.isPrefixOf (c :: rest) || contains part rest

/-- The text with the leftmost occurrence of `old` replaced by `new`. -/
def replaceFirst (old new : Text) : Text → Text
  | [] => if old.isEmpty then new else []
  | c :: rest =>
    if old.isPrefixOf (c :: rest) then new ++ (c :: rest).drop old.length
    else c :: replaceFirst old new rest

/-- The texts one after the other with `separator` between neighbours. -/
def joinWith (separator : Text) (parts : List Text) : Text :=
  List.intercalate separator parts

/-- The decimal digits of a natural number. -/
def ofNat (n : Nat) : Text :=
  Nat.toDigits 10 n

/-- The decimal digits of an integer, with a minus sign if it is negative. -/
def ofInt : Int → Text
  | .ofNat n => ofNat n
  | .negSucc n => '-' :: ofNat (n + 1)

/-- The text with `fill` added on the right until it has at least `width` characters. -/
def padRight (width : Nat) (fill : Char) (t : Text) : Text :=
  t ++ List.replicate (width - t.length) fill

/-- Strictly before in the order of code points, the shorter of two texts first if one begins the
other. -/
def before : Text → Text → Bool
  | _, [] => false
  | [], _ :: _ => true
  | a :: as, b :: bs => if a = b then before as bs else a.val < b.val

end Text

end DeclIndex
