import DeclIndex.Proofs.Assoc
import DeclIndex.Proofs.Value.JsonText

/-!
# Writing JSON

What is written for a value is a text of JSON that writes it. Escapes leave no character of a text
unwritten, and digits no whole number.

## Main results

* `Json.writesText_flatMap_escaped` — texts are written.
* `Json.writesInt_ofInt` — whole numbers are written.
* `Json.isTextOf_indented` — **every value is written**, over several lines.
* `Json.isPrintable_iff` — the values that are written in full.
-/

namespace DeclIndex.Json

/-! ## Texts -/

/-- The last hexadecimal digit of a number after those of the number without it. -/
lemma hexDigits_succ (width n : Nat) :
    Text.hexDigits (width + 2) n =
      Text.hexDigits (width + 1) (n / 16) ++ [Nat.digitChar (n % 16)] := by
  rw [Text.hexDigits, Text.hexDigits]
  by_cases hn : n < 16
  · have hzero : Nat.toDigits 16 0 = ['0'] := rfl
    rw [Nat.toDigits_of_lt_base hn, Nat.div_eq_of_lt hn, Nat.mod_eq_of_lt hn, hzero]
    simp [List.replicate_succ']
  · rw [Nat.toDigits_of_base_le (by decide) (by omega)]
    simp

/-- Hexadecimal digits write the number that they were made of. -/
lemma exists_map_hexDigits (width : Nat) : ∀ n < Nat.pow 16 (width + 1), ∃ digits,
    (Text.hexDigits (width + 1) n).map Text.hexValue? = digits.map some ∧
      digits.length = width + 1 ∧ Text.readNat 16 digits = n := by
  have hvalue : ∀ d < 16, Text.hexValue? (Nat.digitChar d) = some d := by decide
  induction width with
  | zero =>
    intro n hn
    have hn : n < 16 := by simpa using hn
    refine ⟨[n], ?_, rfl, by simp [Text.readNat]⟩
    rw [Text.hexDigits, Nat.toDigits_of_lt_base hn]
    simp [hvalue n hn]
  | succ width ih =>
    intro n hn
    have hpow : Nat.pow 16 (width + 1 + 1) = 16 * Nat.pow 16 (width + 1) := Nat.pow_succ'
    obtain ⟨digits, hmap, hlength, hread⟩ := ih (n / 16) (Nat.div_lt_of_lt_mul (hpow ▸ hn))
    refine ⟨digits ++ [n % 16], ?_, by simp [hlength], ?_⟩
    · rw [hexDigits_succ, List.map_append, hmap, List.map_append]
      simp [hvalue (n % 16) (Nat.mod_lt n (by decide))]
    · rw [Text.readNat, List.foldl_append, ← Text.readNat, hread]
      simpa using Nat.div_add_mod' n 16

/-- Numbers below 2¹⁶ are written with four digits. -/
lemma writesUnit_hexDigits {n : Nat} (hn : n < 0x10000) : WritesUnit n (Text.hexDigits 4 n) :=
  exists_map_hexDigits 3 n (by simpa using hn)

/-- A code point is written as it stands or by an escape. -/
lemma writesPoint_escapedPoint (p : CodePoint) : WritesPoint p (escapedPoint p) := by
  cases p with
  | char c =>
    rw [escapedPoint]
    unfold escaped
    split
    iterate 7 exact .short rfl
    split
    · exact .number (writesUnit_hexDigits (by omega))
    · exact .plain (by omega) ‹_› ‹_›
  | surrogate offset => exact .surrogate (writesUnit_hexDigits (by omega))

/-- **Texts are written**, one code point after the other, unless halves of characters stand side by
side. -/
lemma writesText_flatMap_escaped {t : WideText} (h : IsSpelled t) :
    WritesText t (t.flatMap escapedPoint) := by
  induction t with
  | nil => exact .nil
  | cons p t ih => exact .cons (writesPoint_escapedPoint p) (ih h.2) h.1

/-! ## Whole numbers -/

/-- Digits are read as the number that they were made of. -/
lemma natOf_ofNat (n : Nat) : natOf (Text.ofNat n) = n := by
  have hfold : ∀ (digits : Text) (k : Nat),
      (digits.map fun c => c.toNat - 48).foldl (fun n d => n * 10 + d) k =
        Nat.ofDigitChars 10 digits k := by
    intro digits k
    rw [List.foldl_map, Nat.ofDigitChars]
    simp only [Nat.mul_comm]
    rfl
  rw [natOf, Text.readNat, hfold, Text.ofNat, Nat.ofDigitChars_toDigits (by decide) (by decide)]

/-- The digits of a number other than zero do not begin with zero. -/
lemma head?_ofNat_ne {n : Nat} (hn : 0 < n) : (Text.ofNat n).head? ≠ some '0' := by
  have hdigit : ∀ d < 10, 0 < d → [Nat.digitChar d].head? ≠ some '0' := by decide
  induction n using Nat.strongRecOn with
  | _ n ih =>
    rw [Text.ofNat]
    by_cases h : n < 10
    · rw [Nat.toDigits_of_lt_base h]
      exact hdigit n h hn
    · rw [Nat.toDigits_of_base_le (by decide) (by omega),
        List.head?_append, List.head?_eq_some_head Nat.toDigits_ne_nil, Option.some_or,
        ← List.head?_eq_some_head]
      exact ih (n / 10) (by omega) (by omega)

/-- The digits of a number. -/
lemma isWhole_ofNat (n : Nat) : IsWhole (Text.ofNat n) := by
  cases n with
  | zero => exact .inl rfl
  | succ n =>
    have hdigits : IsDigits (Text.ofNat (n + 1)) :=
      ⟨Nat.toDigits_ne_nil, fun c hc => Nat.isDigit_of_mem_toDigits (by decide) (by decide) hc⟩
    exact .inr ⟨hdigits, head?_ofNat_ne n.succ_pos⟩

/-- **Whole numbers are written**, of any size. -/
lemma writesInt_ofInt (n : Int) : WritesInt n (Text.ofInt n) := by
  cases n with
  | ofNat n =>
    have h := WritesInt.ofNat (isWhole_ofNat n)
    rwa [natOf_ofNat] at h
  | negSucc n =>
    have h := WritesInt.neg (isWhole_ofNat (n + 1))
    rwa [natOf_ofNat] at h

/-! ## Values -/

/-- What a new line begins with is white space. -/
lemma spaces_newline (depth : Nat) : Spaces (newline depth) := by
  refine List.forall_mem_cons.mpr ⟨rfl, fun c hc => ?_⟩
  rw [List.eq_of_mem_replicate hc]
  rfl

/-- The items of a list are written through the closing bracket, if each of them is. -/
lemma writes_items {rest : List (Value CodePoint)} : ∀ {v : Value CodePoint} (depth : Nat)
    {s : Text}, Spaces s → (∀ v' ∈ v :: rest, Writes (.value v') (indented depth v')) →
    Writes (.items (v :: rest)) (indented depth v ++ indentedItems depth rest ++ s ++ [']']) := by
  induction rest with
  | nil =>
    intro v depth s hs h
    rw [indentedItems, List.append_nil]
    exact .lastItem (h v List.mem_cons_self) hs
  | cons v' rest ih =>
    intro v depth s hs h
    obtain ⟨hv, hrest⟩ := List.forall_mem_cons.mp h
    have hnext := ih depth hs hrest
    have hitem := Writes.item hv (s := []) (by simp [Spaces]) (spaces_newline depth) hnext
    simpa only [indentedItems, List.append_assoc, List.cons_append, List.nil_append] using hitem

/-- The fields of an object are written through the closing brace, if the value of each is. -/
lemma writes_fields {rest : List (WideText × Value CodePoint)} :
    ∀ {f : WideText × Value CodePoint} (depth : Nat) {s : Text}, Spaces s →
    (∀ f' ∈ f :: rest, IsSpelled f'.1) →
    (∀ f' ∈ f :: rest, Writes (.value f'.2) (indented depth f'.2)) →
    Writes (.fields (f :: rest))
      (indentedField depth f ++ indentedFields depth rest ++ s ++ ['}']) := by
  have hblank : Spaces [' '] := by simp [Spaces, isSpace]
  have hnone : Spaces [] := by simp [Spaces]
  induction rest with
  | nil =>
    rintro ⟨key, v⟩ depth s hs hkeys h
    have hfield := Writes.lastField (writesText_flatMap_escaped (hkeys _ List.mem_cons_self)) hnone
      hblank (h _ List.mem_cons_self) hs
    simpa [indentedField, indentedFields, string] using hfield
  | cons f' rest ih =>
    rintro ⟨key, v⟩ depth s hs hkeys h
    obtain ⟨hkey, hkeys⟩ := List.forall_mem_cons.mp hkeys
    obtain ⟨hv, hrest⟩ := List.forall_mem_cons.mp h
    have hnext := ih depth hs hkeys hrest
    have hfield := Writes.field (writesText_flatMap_escaped hkey) hnone hblank hv hnone
      (spaces_newline depth) hnext
    simpa [indentedField, indentedFields, string] using hfield

/-- **Every value is written**, at every depth. -/
theorem writes_indented {v : Value CodePoint} (h : Writable v) :
    ∀ depth, Writes (.value v) (indented depth v) := by
  induction h with
  | null => exact fun depth => .null
  | bool b => exact fun depth => by cases b; exacts [.boolFalse, .boolTrue]
  | int n => exact fun depth => .int (writesInt_ofInt n)
  | real h => exact fun depth => .real h
  | text h => exact fun depth => .text (writesText_flatMap_escaped h)
  | list h ih =>
    intro depth
    rename_i vs
    cases vs with
    | nil => exact .emptyList (s := []) (by simp [Spaces])
    | cons v rest =>
      have hitems := writes_items (depth + 1) (spaces_newline depth)
        fun v' hv' => ih v' hv' (depth + 1)
      have hlist := Writes.list (spaces_newline (depth + 1)) hitems
      simpa only [indented, List.append_assoc, List.cons_append] using hlist
  | object hkeys hspelled h ih =>
    intro depth
    rename_i fs
    cases fs with
    | nil => exact .emptyObject (s := []) (by simp [Spaces])
    | cons f rest =>
      have hfields := writes_fields (depth + 1) (spaces_newline depth) hspelled
        fun f' hf' => ih f' hf' (depth + 1)
      have hobject := Writes.object (spaces_newline (depth + 1)) hkeys hfields
      simpa only [indented, List.append_assoc, List.cons_append] using hobject

/-- **What is written for a value is a text of JSON** that writes it. -/
theorem isTextOf_indented {v : Value CodePoint} (h : Writable v) (depth : Nat) :
    IsTextOf v (indented depth v) :=
  ⟨[], _, [], by simp [Spaces], writes_indented h depth, by simp [Spaces], by simp⟩

/-! ## Values that are written in full -/

section

variable {digits : Nat}

mutual

/-- Whether a value can be written does not depend on the width of its texts. -/
lemma isPrintable_wide (v : Value) : isPrintable digits v.wide = isPrintable digits v := by
  cases v with
  | list items => exact allPrintable_wideItems items
  | object fields => exact fieldsPrintable_wideFields fields
  | _ => rfl

/-- Whether items can be written does not depend on the width of their texts. -/
lemma allPrintable_wideItems (items : List Value) :
    allPrintable digits (Value.wideItems items) = allPrintable digits items := by
  cases items with
  | nil => rfl
  | cons v rest => rw [Value.wideItems, allPrintable, allPrintable, isPrintable_wide,
      allPrintable_wideItems]

/-- Whether fields can be written does not depend on the width of their texts. -/
lemma fieldsPrintable_wideFields (fields : List (Text × Value)) :
    fieldsPrintable digits (Value.wideFields fields) = fieldsPrintable digits fields := by
  cases fields with
  | nil => rfl
  | cons f rest => rw [Value.wideFields, fieldsPrintable, fieldsPrintable, isPrintable_wide,
      fieldsPrintable_wideFields]

end

variable {χ : Type}

mutual

/-- A value that can be written keeps within some limits. -/
lemma exists_fits_of_isPrintable (v : Value χ) (h : isPrintable digits v = true) :
    ∃ levels, Fits digits levels v := by
  cases v with
  | null => exact ⟨0, .null⟩
  | bool b => exact ⟨0, .bool b⟩
  | int n => exact ⟨0, .int (by simpa [isPrintable] using h)⟩
  | real written => exact ⟨0, .real written⟩
  | text t => exact ⟨0, .text t⟩
  | list items =>
    obtain ⟨levels, hitems⟩ := exists_fits_of_allPrintable items h
    exact ⟨levels + 1, .list hitems⟩
  | object fields =>
    obtain ⟨levels, hfields⟩ := exists_fits_of_fieldsPrintable fields h
    exact ⟨levels + 1, .object hfields⟩
  | other kind blank => cases h

/-- Items that can be written keep within some limits. -/
lemma exists_fits_of_allPrintable (items : List (Value χ)) (h : allPrintable digits items = true) :
    ∃ levels, ∀ v ∈ items, Fits digits levels v := by
  cases items with
  | nil => exact ⟨0, by simp⟩
  | cons v rest =>
    obtain ⟨hv, hrest⟩ := Bool.and_eq_true_iff.mp h
    obtain ⟨m, hm⟩ := exists_fits_of_isPrintable v hv
    obtain ⟨n, hn⟩ := exists_fits_of_allPrintable rest hrest
    exact ⟨max m n, List.forall_mem_cons.mpr ⟨hm.mono (Nat.le_refl _) (Nat.le_max_left m n),
      fun w hw => (hn w hw).mono (Nat.le_refl _) (Nat.le_max_right m n)⟩⟩

/-- Fields that can be written keep within some limits. -/
lemma exists_fits_of_fieldsPrintable (fields : List (List χ × Value χ))
    (h : fieldsPrintable digits fields = true) :
    ∃ levels, ∀ f ∈ fields, Fits digits levels f.2 := by
  cases fields with
  | nil => exact ⟨0, by simp⟩
  | cons f rest =>
    obtain ⟨hf, hrest⟩ := Bool.and_eq_true_iff.mp h
    obtain ⟨m, hm⟩ := exists_fits_of_isPrintable f.2 hf
    obtain ⟨n, hn⟩ := exists_fits_of_fieldsPrintable rest hrest
    exact ⟨max m n, List.forall_mem_cons.mpr ⟨hm.mono (Nat.le_refl _) (Nat.le_max_left m n),
      fun g hg => (hn g hg).mono (Nat.le_refl _) (Nat.le_max_right m n)⟩⟩

end

/-- Items can be written if each of them can. -/
lemma allPrintable_eq_all (items : List (Value χ)) :
    allPrintable digits items = items.all (isPrintable digits) := by
  induction items with
  | nil => rfl
  | cons v rest ih => exact congrArg (isPrintable digits v && ·) ih

/-- Fields can be written if the value of each of them can. -/
lemma fieldsPrintable_eq_all (fields : List (List χ × Value χ)) :
    fieldsPrintable digits fields = fields.all fun f => isPrintable digits f.2 := by
  induction fields with
  | nil => rfl
  | cons f rest ih => exact congrArg (isPrintable digits f.2 && ·) ih

/-- The items of a list that can be written can be written. -/
lemma isPrintable_of_mem {items : List (Value χ)} (h : isPrintable digits (.list items) = true) :
    ∀ v ∈ items, isPrintable digits v = true :=
  List.all_eq_true.mp ((allPrintable_eq_all items).symm.trans h)

/-- The value of a field of an object that can be written can be written. -/
lemma isPrintable_of_field? [DecidableEq χ] {v w : Value χ} {key : List χ}
    (h : isPrintable digits v = true) (hfield : v.field? key = some w) :
    isPrintable digits w = true := by
  cases v with
  | object fields =>
    have hall := List.all_eq_true.mp ((fieldsPrintable_eq_all fields).symm.trans h)
    exact hall _ (Assoc.mem_of_lookup hfield)
  | _ => cases hfield

/-- **The values that are written in full** are those that keep within some limits. -/
theorem isPrintable_iff {v : Value χ} :
    isPrintable digits v = true ↔ ∃ levels, Fits digits levels v := by
  refine ⟨exists_fits_of_isPrintable v, ?_⟩
  rintro ⟨levels, h⟩
  induction h with
  | null | bool | real | text => rfl
  | int h => exact decide_eq_true h
  | list _ ih => exact (allPrintable_eq_all _).trans (List.all_eq_true.mpr ih)
  | object _ ih => exact (fieldsPrintable_eq_all _).trans (List.all_eq_true.mpr ih)

end

end DeclIndex.Json
