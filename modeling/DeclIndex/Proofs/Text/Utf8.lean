import DeclIndex.Text.Utf8
import Mathlib.Tactic.Common

/-!
# UTF-8 read back

The bytes of a text are decoded to the text. A character has one to four bytes, which are the digits
of its number in base 64, each with a mark; so the bytes of a character, followed by any others, are
decoded to the character.

## Main results

* `Utf8.next_utf8EncodeChar` — the bytes of a character are decoded to it.
* `Utf8.decode_encode` — **the bytes of a text are decoded to the text.**
-/

namespace DeclIndex.Utf8

/-! ## Bytes -/

/-- A continuation byte with some low bits. -/
def tail (n : Nat) : UInt8 :=
  UInt8.ofNat (n % 64 + 128)

lemma toNat_tail (n : Nat) : (tail n).toNat = n % 64 + 128 :=
  UInt8.toNat_ofNat_of_lt' (by rw [UInt8.size]; omega)

/-- The low bits of a continuation byte. -/
lemma payload_tail (n : Nat) : payload (tail n) = n % 64 := by
  rw [payload, toNat_tail]
  omega

/-- A continuation byte is one. -/
lemma isContinuation_tail (n : Nat) : isContinuation (tail n) = true := by
  simp only [isContinuation, Bool.and_eq_true, decide_eq_true_eq, UInt8.le_iff_toNat_le, toNat_tail,
    UInt8.reduceToNat]
  omega

/-- A continuation byte may follow a first byte unless the two write a number that they must not. -/
lemma mayFollow_tail {a : UInt8} {n : Nat} (h : a.toNat = 0xE0 → 0x20 ≤ n % 64)
    (hsurrogate : a.toNat = 0xED → n % 64 < 0x20) (hlong : a.toNat = 0xF0 → 0x10 ≤ n % 64)
    (hlast : a.toNat = 0xF4 → n % 64 < 0x10) : mayFollow a (tail n) = true := by
  rw [mayFollow, isContinuation_tail, Bool.true_and]
  simp only [← UInt8.toNat_inj, UInt8.le_iff_toNat_le, toNat_tail, UInt8.reduceToNat]
  split_ifs <;> simp only [decide_eq_true_eq] <;> omega

/-! ## Characters -/

section

variable {a : UInt8} {c d e : Nat} {rest : Bytes}

/-- A character of two bytes. -/
lemma next_two (hlow : 0xC2 ≤ a.toNat) (hhigh : a.toNat < 0xE0) :
    next (a :: tail c :: rest) = .ok (Char.ofNat (a.toNat % 32 * 64 + c % 64), 2) := by
  have h₁ : ¬a < 0x80 := by simp only [UInt8.lt_iff_toNat_lt, UInt8.reduceToNat]; omega
  have h₂ : ¬a < 0xC2 := by simp only [UInt8.lt_iff_toNat_lt, UInt8.reduceToNat]; omega
  have h₃ : a < 0xE0 := by simpa only [UInt8.lt_iff_toNat_lt, UInt8.reduceToNat] using hhigh
  simp only [next, h₁, h₂, h₃, isContinuation_tail, payload_tail, if_true, if_false]

/-- A character of three bytes. -/
lemma next_three (hlow : 0xE0 ≤ a.toNat) (hhigh : a.toNat < 0xF0)
    (hfollow : mayFollow a (tail c) = true) :
    next (a :: tail c :: tail d :: rest) =
      .ok (Char.ofNat ((a.toNat % 16 * 64 + c % 64) * 64 + d % 64), 3) := by
  have h₁ : ¬a < 0x80 := by simp only [UInt8.lt_iff_toNat_lt, UInt8.reduceToNat]; omega
  have h₂ : ¬a < 0xC2 := by simp only [UInt8.lt_iff_toNat_lt, UInt8.reduceToNat]; omega
  have h₃ : ¬a < 0xE0 := by simp only [UInt8.lt_iff_toNat_lt, UInt8.reduceToNat]; omega
  have h₄ : a < 0xF0 := by simpa only [UInt8.lt_iff_toNat_lt, UInt8.reduceToNat] using hhigh
  simp only [next, h₁, h₂, h₃, h₄, hfollow, isContinuation_tail, payload_tail, Bool.not_true,
    Bool.false_eq_true, if_true, if_false]

/-- A character of four bytes. -/
lemma next_four (hlow : 0xF0 ≤ a.toNat) (hhigh : a.toNat < 0xF5)
    (hfollow : mayFollow a (tail c) = true) :
    next (a :: tail c :: tail d :: tail e :: rest) =
      .ok (Char.ofNat (((a.toNat % 8 * 64 + c % 64) * 64 + d % 64) * 64 + e % 64), 4) := by
  have h₁ : ¬a < 0x80 := by simp only [UInt8.lt_iff_toNat_lt, UInt8.reduceToNat]; omega
  have h₂ : ¬a < 0xC2 := by simp only [UInt8.lt_iff_toNat_lt, UInt8.reduceToNat]; omega
  have h₃ : ¬a < 0xE0 := by simp only [UInt8.lt_iff_toNat_lt, UInt8.reduceToNat]; omega
  have h₄ : ¬a < 0xF0 := by simp only [UInt8.lt_iff_toNat_lt, UInt8.reduceToNat]; omega
  have h₅ : a < 0xF5 := by simpa only [UInt8.lt_iff_toNat_lt, UInt8.reduceToNat] using hhigh
  simp only [next, h₁, h₂, h₃, h₄, h₅, hfollow, isContinuation_tail, payload_tail, Bool.not_true,
    Bool.false_eq_true, if_true, if_false]

end

/-- The bytes of a character: the digits of its number in base 64, the first with a mark that tells
how many there are. -/
lemma utf8EncodeChar_eq (c : Char) :
    String.utf8EncodeChar c =
      if c.toNat < 0x80 then [UInt8.ofNat c.toNat]
      else if c.toNat < 0x800 then [UInt8.ofNat (c.toNat / 64 % 32 + 192), tail c.toNat]
      else if c.toNat < 0x10000 then
        [UInt8.ofNat (c.toNat / 4096 % 16 + 224), tail (c.toNat / 64), tail c.toNat]
      else [UInt8.ofNat (c.toNat / 262144 % 8 + 240), tail (c.toNat / 4096), tail (c.toNat / 64),
        tail c.toNat] := by
  simp only [String.utf8EncodeChar, Nat.lt_succ_iff.symm]
  rfl

/-- **The bytes of a character** are decoded to it, whatever follows. -/
theorem next_utf8EncodeChar (c : Char) (rest : Bytes) :
    next (String.utf8EncodeChar c ++ rest) = .ok (c, (String.utf8EncodeChar c).length) := by
  have hvalid : c.toNat.isValidChar := c.valid
  simp only [Nat.isValidChar] at hvalid
  have hbyte : ∀ {n : Nat}, n < 256 → (UInt8.ofNat n).toNat = n :=
    fun h => UInt8.toNat_ofNat_of_lt' h
  have hchar : ∀ {n k : Nat}, n = c.toNat →
      (Except.ok (Char.ofNat n, k) : Except (Cause × Nat) (Char × Nat)) = .ok (c, k) := by
    rintro _ k rfl
    rw [Char.ofNat_toNat]
  rw [utf8EncodeChar_eq]
  split_ifs with hone htwo hthree
  · have ha := hbyte (show c.toNat < 256 by omega)
    have h : UInt8.ofNat c.toNat < 0x80 := by
      simpa only [UInt8.lt_iff_toNat_lt, ha, UInt8.reduceToNat] using hone
    simp only [List.singleton_append, next, h, if_true, ha]
    exact hchar rfl
  · have ha := hbyte (show c.toNat / 64 % 32 + 192 < 256 by omega)
    simp only [List.cons_append, List.nil_append]
    rw [next_two (by omega) (by omega), ha]
    exact hchar (by omega)
  · have ha := hbyte (show c.toNat / 4096 % 16 + 224 < 256 by omega)
    simp only [List.cons_append, List.nil_append]
    rw [next_three (by omega) (by omega) (mayFollow_tail ?_ ?_ ?_ ?_), ha]
    · exact hchar (by omega)
    all_goals rw [ha]; omega
  · have ha := hbyte (show c.toNat / 262144 % 8 + 240 < 256 by omega)
    simp only [List.cons_append, List.nil_append]
    rw [next_four (by omega) (by omega) (mayFollow_tail ?_ ?_ ?_ ?_), ha]
    · exact hchar (by omega)
    all_goals rw [ha]; omega

/-! ## Texts -/

/-- The bytes that belong to the character read last are passed over. -/
lemma decodeFrom_append (bytes rest : Bytes) : ∀ offset,
    decodeFrom offset bytes.length (bytes ++ rest) = decodeFrom (offset + bytes.length) 0 rest := by
  induction bytes with
  | nil => exact fun offset => rfl
  | cons b bytes ih =>
    intro offset
    rw [List.cons_append, List.length_cons, decodeFrom, ih]
    congr 1
    omega

/-- The bytes of a text are decoded to it, from every offset. -/
lemma decodeFrom_encode (t : Text) : ∀ offset, decodeFrom offset 0 (encode t) = .ok t := by
  induction t with
  | nil => exact fun offset => rfl
  | cons c t ih =>
    intro offset
    have hnext := next_utf8EncodeChar c (encode t)
    obtain ⟨b, bytes, hbytes⟩ := List.exists_cons_of_ne_nil (String.utf8EncodeChar_ne_nil (c := c))
    rw [encode, List.flatMap_cons, ← encode]
    rw [hbytes, List.cons_append] at hnext ⊢
    rw [decodeFrom, hnext]
    dsimp only
    rw [List.length_cons, Nat.add_sub_cancel, decodeFrom_append, ih]
    rfl

/-- **The bytes of a text are decoded to the text.** -/
theorem decode_encode (t : Text) : decode (encode t) = .ok t :=
  decodeFrom_encode t 0

end DeclIndex.Utf8
