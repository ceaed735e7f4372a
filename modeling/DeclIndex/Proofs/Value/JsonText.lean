import DeclIndex.Proofs.Value.Wide
import DeclIndex.Value.Json
import Mathlib.Data.List.Nodup

/-!
# Texts of JSON

What a text of JSON is, said as a grammar: which texts write a value, and which of the parts of a
value. A character of a text can be written as it is, by a short escape, or by number. A surrogate
is written by number; two that are the halves of a character can never be written side by side,
since together they write the character. White space may stand between any two tokens. The keys of
an object are distinct.

Besides real numbers with a fraction or an exponent there are three words for numbers without
digits. The grammar knows neither limits on numbers nor on nesting; a value that keeps within limits
is said to fit them.

## Main definitions

* `Json.WritesText`, `Json.WritesInt`, `Json.IsReal` — what writes texts and numbers.
* `Json.Writes` — a text writes a value, the items of a list, or the fields of an object.
* `Json.IsTextOf` — a text writes a value, with white space around it.
* `Json.Writable`, `Json.Exact` — a value that a text can write, and one without real numbers.
* `Json.Fits` — a value keeps within limits.

## Main results

* `Json.Writes.exists_cons` — a text that writes a value does not begin with white space.
* `Json.IsTextOf.fits` — **what a text writes fits the length of the text.**
-/

namespace DeclIndex.Json

/-! ## White space -/

/-- White space between two tokens. -/
def Spaces (s : Text) : Prop :=
  ∀ c ∈ s, isSpace c = true

/-! ## Texts -/

/-- Four hexadecimal digits write a code unit. -/
def WritesUnit (n : Nat) (w : Text) : Prop :=
  ∃ digits, w.map Text.hexValue? = digits.map some ∧ digits.length = 4 ∧ Text.readNat 16 digits = n

/-- What stands for a code point in a text. -/
inductive WritesPoint : CodePoint → Text → Prop
  /-- The character itself. -/
  | plain {c : Char} (hcontrol : 0x20 ≤ c.toNat) (hquote : c ≠ '"') (hescape : c ≠ '\\') :
      WritesPoint (.char c) [c]
  /-- A letter or a sign after a backslash. -/
  | short {c e : Char} (h : shortEscape? e = some c) : WritesPoint (.char c) ['\\', e]
  /-- The number of the character. -/
  | number {c : Char} {w : Text} (h : WritesUnit c.toNat w) :
      WritesPoint (.char c) ('\\' :: 'u' :: w)
  /-- The numbers of a pair of surrogates. -/
  | pair {high low : Nat} {w w' : Text} (hhigh : 0xD800 ≤ high ∧ high ≤ 0xDBFF)
      (hlow : 0xDC00 ≤ low ∧ low ≤ 0xDFFF) (h : WritesUnit high w) (h' : WritesUnit low w') :
      WritesPoint (.char (Char.ofNat (0x10000 + (high - 0xD800) * 0x400 + (low - 0xDC00))))
        ('\\' :: 'u' :: w ++ '\\' :: 'u' :: w')
  /-- The number of a surrogate alone. -/
  | surrogate {offset : Fin 0x800} {w : Text} (h : WritesUnit (0xD800 + offset) w) :
      WritesPoint (.surrogate offset) ('\\' :: 'u' :: w)

/-- A code point and the text after it are not the halves of a character. -/
def StandsApart (p : CodePoint) (t : WideText) : Prop :=
  ∀ q ∈ t.head?, p.joins q = false

/-- What stands for a text between its quotation marks. -/
inductive WritesText : WideText → Text → Prop
  | nil : WritesText [] []
  | cons {p : CodePoint} {t : WideText} {w ws : Text} (h : WritesPoint p w) (ht : WritesText t ws)
      (happart : StandsApart p t) : WritesText (p :: t) (w ++ ws)

/-- A text without halves of characters side by side. -/
def IsSpelled : WideText → Prop
  | [] => True
  | p :: t => StandsApart p t ∧ IsSpelled t

/-! ## Numbers -/

/-- Decimal digits, at least one. -/
def IsDigits (t : Text) : Prop :=
  t ≠ [] ∧ ∀ c ∈ t, c.isDigit = true

/-- The whole part of a number: zero, or digits that do not begin with zero. -/
def IsWhole (t : Text) : Prop :=
  t = ['0'] ∨ IsDigits t ∧ t.head? ≠ some '0'

/-- A fraction, or nothing. -/
def IsFraction (t : Text) : Prop :=
  t = [] ∨ ∃ digits, t = '.' :: digits ∧ IsDigits digits

/-- An exponent, or nothing. -/
def IsExponent (t : Text) : Prop :=
  t = [] ∨ ∃ e sign digits, t = e :: sign ++ digits ∧ (e = 'e' ∨ e = 'E') ∧
    (sign = [] ∨ sign = ['+'] ∨ sign = ['-']) ∧ IsDigits digits

/-- What writes a whole number. -/
inductive WritesInt : Int → Text → Prop
  | ofNat {t : Text} (h : IsWhole t) : WritesInt (Int.ofNat (natOf t)) t
  | neg {t : Text} (h : IsWhole t) : WritesInt (-Int.ofNat (natOf t)) ('-' :: t)

/-- What writes a real number. -/
inductive IsReal : Text → Prop
  | decimal {sign whole fraction exponent : Text} (hsign : sign = [] ∨ sign = ['-'])
      (hwhole : IsWhole whole) (hfraction : IsFraction fraction) (hexponent : IsExponent exponent)
      (hreal : fraction ≠ [] ∨ exponent ≠ []) : IsReal (sign ++ whole ++ fraction ++ exponent)
  /-- A number without digits. -/
  | word {t : Text} (h : t ∈ ["NaN".toList, "Infinity".toList, "-Infinity".toList]) : IsReal t

/-! ## Values -/

/-- What a text can write. -/
inductive Part
  | value (v : Value CodePoint)
  /-- The items of a list, through its closing bracket. -/
  | items (vs : List (Value CodePoint))
  /-- The fields of an object, through its closing brace. -/
  | fields (fs : List (WideText × Value CodePoint))

/-- **The grammar of JSON**: a text writes a value, the items of a list or the fields of an
object. -/
inductive Writes : Part → Text → Prop
  | null : Writes (.value .null) "null"
  | boolTrue : Writes (.value (.bool true)) "true"
  | boolFalse : Writes (.value (.bool false)) "false"
  | int {n : Int} {t : Text} (h : WritesInt n t) : Writes (.value (.int n)) t
  | real {t : Text} (h : IsReal t) : Writes (.value (.real t)) t
  | text {t : WideText} {w : Text} (h : WritesText t w) :
      Writes (.value (.text t)) ('"' :: w ++ ['"'])
  | emptyList {s : Text} (hs : Spaces s) : Writes (.value (.list [])) ('[' :: s ++ [']'])
  | list {vs : List (Value CodePoint)} {s t : Text} (hs : Spaces s) (h : Writes (.items vs) t) :
      Writes (.value (.list vs)) ('[' :: s ++ t)
  | emptyObject {s : Text} (hs : Spaces s) : Writes (.value (.object [])) ('{' :: s ++ ['}'])
  | object {fs : List (WideText × Value CodePoint)} {s t : Text} (hs : Spaces s)
      (hkeys : (fs.map (·.1)).Nodup) (h : Writes (.fields fs) t) :
      Writes (.value (.object fs)) ('{' :: s ++ t)
  | lastItem {v : Value CodePoint} {t s : Text} (h : Writes (.value v) t) (hs : Spaces s) :
      Writes (.items [v]) (t ++ s ++ [']'])
  | item {v : Value CodePoint} {vs : List (Value CodePoint)} {t s s' rest : Text}
      (h : Writes (.value v) t) (hs : Spaces s) (hs' : Spaces s')
      (hrest : Writes (.items vs) rest) :
      Writes (.items (v :: vs)) (t ++ s ++ ',' :: s' ++ rest)
  | lastField {key : WideText} {w s s' : Text} {v : Value CodePoint} {t s'' : Text}
      (hkey : WritesText key w) (hs : Spaces s) (hs' : Spaces s') (h : Writes (.value v) t)
      (hs'' : Spaces s'') :
      Writes (.fields [(key, v)]) ('"' :: w ++ '"' :: s ++ ':' :: s' ++ t ++ s'' ++ ['}'])
  | field {key : WideText} {w s s' : Text} {v : Value CodePoint}
      {fs : List (WideText × Value CodePoint)} {t s₁ s₂ rest : Text}
      (hkey : WritesText key w) (hs : Spaces s) (hs' : Spaces s') (h : Writes (.value v) t)
      (hs₁ : Spaces s₁) (hs₂ : Spaces s₂) (hrest : Writes (.fields fs) rest) :
      Writes (.fields ((key, v) :: fs))
        ('"' :: w ++ '"' :: s ++ ':' :: s' ++ t ++ s₁ ++ ',' :: s₂ ++ rest)

/-- A text writes a value, with white space around it. -/
def IsTextOf (v : Value CodePoint) (t : Text) : Prop :=
  ∃ s w s', Spaces s ∧ Writes (.value v) w ∧ Spaces s' ∧ t = s ++ w ++ s'

/-- A value that a text can write: its real numbers are written as such, no halves of characters
stand side by side, and the keys of its objects are distinct. -/
inductive Writable : Value CodePoint → Prop
  | null : Writable .null
  | bool (b : Bool) : Writable (.bool b)
  | int (n : Int) : Writable (.int n)
  | real {written : Text} (h : IsReal written) : Writable (.real written)
  | text {t : WideText} (h : IsSpelled t) : Writable (.text t)
  | list {vs : List (Value CodePoint)} (h : ∀ v ∈ vs, Writable v) : Writable (.list vs)
  | object {fs : List (WideText × Value CodePoint)} (hkeys : (fs.map (·.1)).Nodup)
      (hspelled : ∀ f ∈ fs, IsSpelled f.1) (h : ∀ f ∈ fs, Writable f.2) : Writable (.object fs)

section

variable {fs : List (WideText × Value CodePoint)}

/-- The keys of an object that can be written are distinct. -/
lemma Writable.nodup_keys (h : Writable (.object fs)) : (fs.map (·.1)).Nodup := by
  cases h with
  | object hkeys _ _ => exact hkeys

/-- The keys of an object that can be written can be written. -/
lemma Writable.isSpelled (h : Writable (.object fs)) : ∀ f ∈ fs, IsSpelled f.1 := by
  cases h with
  | object _ hspelled _ => exact hspelled

/-- The values in an object that can be written can be written. -/
lemma Writable.of_mem (h : Writable (.object fs)) : ∀ f ∈ fs, Writable f.2 := by
  cases h with
  | object _ _ h => exact h

end

/-- A text of characters has no halves of characters. -/
lemma isSpelled_wide (t : Text) : IsSpelled (Text.wide t) := by
  induction t with
  | nil => exact trivial
  | cons c t ih => exact ⟨fun q _ => rfl, ih⟩

/-- A value that can be written without real numbers, and so without the three words for numbers
that no other notation of JSON has. -/
inductive Exact : Value → Prop
  | null : Exact .null
  | bool (b : Bool) : Exact (.bool b)
  | int (n : Int) : Exact (.int n)
  | text (t : Text) : Exact (.text t)
  | list {vs : List Value} (h : ∀ v ∈ vs, Exact v) : Exact (.list vs)
  | object {fs : List (Text × Value)} (hkeys : (fs.map (·.1)).Nodup)
      (h : ∀ f ∈ fs, Exact f.2) : Exact (.object fs)

/-- A value without real numbers can be written. -/
lemma Exact.writable {v : Value} (h : Exact v) : Writable v.wide := by
  induction h with
  | null => exact .null
  | bool b => exact .bool b
  | int n => exact .int n
  | text t => exact .text (isSpelled_wide t)
  | list _ ih =>
    rw [Value.wide, Value.wideItems_eq_map]
    exact .list (List.forall_mem_map.mpr ih)
  | object hkeys _ ih =>
    rw [Value.wide, Value.wideFields_eq_map]
    refine .object ?_ (List.forall_mem_map.mpr fun f _ => isSpelled_wide f.1)
      (List.forall_mem_map.mpr ih)
    have hdistinct := List.Nodup.map Text.wide_injective hkeys
    rwa [List.map_map] at hdistinct ⊢

/-! ## Limits -/

/-- A value keeps within limits: no integer has more than `digits` digits, and no more than a number
of lists and objects lie in one another. -/
inductive Fits {χ : Type} (digits : Nat) : Nat → Value χ → Prop
  | null {levels : Nat} : Fits digits levels .null
  | bool {levels : Nat} (b : Bool) : Fits digits levels (.bool b)
  | int {levels : Nat} {n : Int} (h : n.natAbs < Nat.pow 10 digits) : Fits digits levels (.int n)
  | real {levels : Nat} (written : Text) : Fits digits levels (.real written)
  | text {levels : Nat} (t : List χ) : Fits digits levels (.text t)
  | list {levels : Nat} {vs : List (Value χ)} (h : ∀ v ∈ vs, Fits digits levels v) :
      Fits digits (levels + 1) (.list vs)
  | object {levels : Nat} {fs : List (List χ × Value χ)} (h : ∀ f ∈ fs, Fits digits levels f.2) :
      Fits digits (levels + 1) (.object fs)

/-- Wider limits. -/
lemma Fits.mono {χ : Type} {digits digits' levels : Nat} {v : Value χ} (h : Fits digits levels v)
    (hdigits : digits ≤ digits') : ∀ {levels'}, levels ≤ levels' → Fits digits' levels' v := by
  induction h with
  | null => exact fun _ => .null
  | bool b => exact fun _ => .bool b
  | int h => exact fun _ => .int (Nat.lt_of_lt_of_le h (Nat.pow_le_pow_right (by decide) hdigits))
  | real written => exact fun _ => .real written
  | text t => exact fun _ => .text t
  | list _ ih =>
    intro levels' hlevels
    obtain ⟨levels', rfl⟩ := Nat.exists_eq_add_of_lt hlevels
    exact .list fun v hv => ih v hv (by omega)
  | object _ ih =>
    intro levels' hlevels
    obtain ⟨levels', rfl⟩ := Nat.exists_eq_add_of_lt hlevels
    exact .object fun f hf => ih f hf (by omega)

/-- A value that keeps within limits keeps within them with its texts as wide ones. -/
lemma Fits.wide {digits levels : Nat} {v : Value} (h : Fits digits levels v) :
    Fits digits levels v.wide := by
  induction h with
  | null => exact .null
  | bool b => exact .bool b
  | int h => exact .int h
  | real written => exact .real written
  | text t => exact .text _
  | list _ ih =>
    rw [Value.wide, Value.wideItems_eq_map]
    exact .list (List.forall_mem_map.mpr ih)
  | object _ ih =>
    rw [Value.wide, Value.wideFields_eq_map]
    exact .object (List.forall_mem_map.mpr ih)

/-- A part of a value keeps within limits. -/
def Part.Fits (digits levels : Nat) : Part → Prop
  | .value v => Json.Fits digits levels v
  | .items vs => ∀ v ∈ vs, Json.Fits digits levels v
  | .fields fs => ∀ f ∈ fs, Json.Fits digits levels f.2

/-- Wider limits. -/
lemma Part.Fits.mono {digits digits' levels levels' : Nat} {part : Part}
    (h : part.Fits digits levels) (hdigits : digits ≤ digits') (hlevels : levels ≤ levels') :
    part.Fits digits' levels' := by
  cases part with
  | value v => exact Json.Fits.mono h hdigits hlevels
  | items vs => exact fun v hv => (h v hv).mono hdigits hlevels
  | fields fs => exact fun f hf => (h f hf).mono hdigits hlevels

/-! ## What texts begin with -/

/-- Digits begin with a digit. -/
lemma IsDigits.exists_cons {t : Text} (h : IsDigits t) :
    ∃ c rest, t = c :: rest ∧ c.isDigit = true := by
  obtain ⟨c, rest, rfl⟩ := List.exists_cons_of_ne_nil h.1
  exact ⟨c, rest, rfl, h.2 c List.mem_cons_self⟩

/-- The whole part of a number is made of digits. -/
lemma IsWhole.isDigits {t : Text} (h : IsWhole t) : IsDigits t := by
  rcases h with rfl | h
  · exact ⟨List.cons_ne_nil _ _, by simp⟩
  · exact h.1

/-- What does not begin a value: white space, a closing bracket or a closing brace. -/
def beginsNone (c : Char) : Bool :=
  isSpace c || c == ']' || c == '}'

/-- A digit can begin a value. -/
lemma beginsNone_of_isDigit {c : Char} (h : c.isDigit = true) : beginsNone c = false := by
  rw [← Bool.not_eq_true]
  intro hc
  simp only [beginsNone, isSpace, Bool.or_eq_true, beq_iff_eq] at hc
  rcases hc with ((((rfl | rfl) | rfl) | rfl) | rfl) | rfl <;> simp at h

/-- **A text that writes a value** does not begin with white space or with a closing bracket. -/
lemma Writes.exists_cons {part : Part} {t : Text} (h : Writes part t) :
    ∃ c rest, t = c :: rest ∧ beginsNone c = false := by
  induction h with
  | null | boolTrue | boolFalse | text | emptyList | list | emptyObject | object | lastField
  | field =>
    exact ⟨_, _, rfl, rfl⟩
  | int h =>
    cases h with
    | ofNat h =>
      obtain ⟨c, rest, rfl, hc⟩ := h.isDigits.exists_cons
      exact ⟨c, rest, rfl, beginsNone_of_isDigit hc⟩
    | neg h => exact ⟨_, _, rfl, rfl⟩
  | real h =>
    cases h with
    | decimal hsign hwhole =>
      rcases hsign with rfl | rfl
      · obtain ⟨c, rest, rfl, hc⟩ := hwhole.isDigits.exists_cons
        exact ⟨c, _, rfl, beginsNone_of_isDigit hc⟩
      · exact ⟨_, _, rfl, rfl⟩
    | word h =>
      simp only [List.mem_cons, List.not_mem_nil, or_false] at h
      rcases h with rfl | rfl | rfl <;> exact ⟨_, _, rfl, rfl⟩
  | lastItem h hs ih | item h hs hs' hrest ih =>
    obtain ⟨c, rest, rfl, hc⟩ := ih
    exact ⟨c, _, rfl, hc⟩

/-! ## What texts leave room for -/

/-- Digits write a number below the power of ten with as many zeros. -/
lemma natOf_lt {t : Text} (h : ∀ c ∈ t, c.isDigit = true) : natOf t < Nat.pow 10 t.length := by
  have hfold : ∀ t : Text, (∀ c ∈ t, c.isDigit = true) → ∀ n,
      (t.map fun c => c.toNat - 48).foldl (fun n d => n * 10 + d) n <
        (n + 1) * Nat.pow 10 t.length := by
    intro t
    induction t with
    | nil => exact fun _ n => by simp
    | cons c t ih =>
      intro h n
      obtain ⟨hc, ht⟩ := List.forall_mem_cons.mp h
      have hdigit : c.toNat ≤ 57 := by
        simp only [Char.isDigit, Bool.and_eq_true, decide_eq_true_eq, UInt32.le_iff_toNat_le] at hc
        exact hc.2
      have hnext : n * 10 + (c.toNat - 48) + 1 ≤ (n + 1) * 10 := by omega
      have hpow : Nat.pow 10 (t.length + 1) = 10 * Nat.pow 10 t.length := Nat.pow_succ'
      refine Nat.lt_of_lt_of_le (ih ht _) ?_
      rw [List.length_cons, hpow, ← Nat.mul_assoc]
      exact Nat.mul_le_mul_right _ hnext
  simpa [natOf, Text.readNat] using hfold t h 0

/-- **A part of a value fits the length of a text** that writes it. -/
lemma Writes.fits {part : Part} {t : Text} (h : Writes part t) : part.Fits t.length t.length := by
  induction h with
  | null => exact .null
  | boolTrue | boolFalse => exact .bool _
  | int h =>
    cases h with
    | ofNat h => exact .int (by simpa using natOf_lt h.isDigits.2)
    | neg h =>
      refine .int ?_
      rw [Int.natAbs_neg]
      exact Nat.lt_of_lt_of_le (natOf_lt h.isDigits.2)
        (Nat.pow_le_pow_right (by decide) (Nat.le_succ _))
  | real => exact .real _
  | text => exact .text _
  | emptyList hs => exact .list (by simp)
  | emptyObject hs => exact .object (by simp)
  | list hs h ih =>
    refine .list fun v hv => (ih v hv).mono ?_ ?_ <;>
      simp only [List.append_eq, List.length_append, List.length_cons] <;> omega
  | object hs hkeys h ih =>
    refine .object fun f hf => (ih f hf).mono ?_ ?_ <;>
      simp only [List.append_eq, List.length_append, List.length_cons] <;> omega
  | lastItem h hs ih =>
    refine List.forall_mem_singleton.mpr (Fits.mono ih ?_ ?_) <;>
      simp only [List.length_append] <;> omega
  | item h hs hs' hrest ih ih' =>
    refine List.forall_mem_cons.mpr ⟨Fits.mono ih ?_ ?_, fun v hv => (ih' v hv).mono ?_ ?_⟩ <;>
      simp only [List.length_append, List.length_cons] <;> omega
  | lastField hkey hs hs' h hs'' ih =>
    refine List.forall_mem_singleton.mpr (Fits.mono ih ?_ ?_) <;>
      simp only [List.length_append, List.length_cons] <;> omega
  | field hkey hs hs' h hs₁ hs₂ hrest ih ih' =>
    refine List.forall_mem_cons.mpr ⟨Fits.mono ih ?_ ?_, fun f hf => (ih' f hf).mono ?_ ?_⟩ <;>
      simp only [List.length_append, List.length_cons] <;> omega

/-- **What a text writes fits the length of the text.** -/
lemma IsTextOf.fits {v : Value CodePoint} {t : Text} (h : IsTextOf v t) :
    Fits t.length t.length v := by
  obtain ⟨s, w, s', -, hw, -, rfl⟩ := h
  refine Part.Fits.mono hw.fits ?_ ?_ <;> simp only [List.length_append] <;> omega

end DeclIndex.Json
