import DeclIndex.Text.Basic

/-!
# Wide texts

The notation of JSON numbers the halves of characters, and a half may stand there alone. What is
read is then a text of code points, of which some are no characters. Such texts are compared and
passed on, but cannot be printed.

## Main definitions

* `CodePoint` — a character, or half of one.
* `WideText` — a text of code points, with `Text.wide` and `WideText.narrow?` between the two kinds
  of text.
-/

namespace DeclIndex

/-- A code point: a character, or a surrogate, which is half of one. -/
inductive CodePoint
  | char (c : Char)
  /-- The surrogate with the number `0xD800 + offset`. -/
  | surrogate (offset : Fin 0x800)
  deriving DecidableEq, Repr

namespace CodePoint

/-- The code point with a number below 2¹⁶. -/
def ofUnit (n : Nat) : CodePoint :=
  if 0xD800 ≤ n ∧ n ≤ 0xDFFF then .surrogate (Fin.ofNat 0x800 (n - 0xD800))
  else .char (Char.ofNat n)

/-- The character that a code point is. -/
def char? : CodePoint → Option Char
  | .char c => some c
  | .surrogate _ => none

/-- Whether two code points are the halves of one character. -/
def joins : CodePoint → CodePoint → Bool
  | .surrogate high, .surrogate low => high < 0x400 && 0x400 ≤ low
  | _, _ => false

end CodePoint

/-- A text of code points. -/
abbrev WideText := List CodePoint

/-- A text as one of code points. -/
def Text.wide (t : Text) : WideText :=
  t.map .char

instance : Coe String WideText := ⟨fun s => Text.wide s.toList⟩

namespace WideText

/-- The text of characters that a wide text is, if all its code points are characters. -/
def narrow? : WideText → Option Text
  | [] => some []
  | p :: rest => p.char?.bind fun c => (narrow? rest).map (c :: ·)

end WideText

end DeclIndex
