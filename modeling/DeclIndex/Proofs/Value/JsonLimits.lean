import DeclIndex.Proofs.Value.JsonFile

/-!
# Limits of the reader of JSON

Within wider limits a reader reads what it read before, and more. What stops it is that an integer
is too long or that something lies too deep in lists and objects. So a text of JSON is read exactly
if the value that it writes keeps within the limits of the reader.

## Main definitions

* `Json.Within` — what is found within limits, beside what is found within wider ones.

## Main results

* `Json.within_readWithin` — **wider limits** change nothing but that more is read.
* `Json.read_of_isTextOf_of_not_fits` — what happens to a value beyond the limits.
-/

namespace DeclIndex.Json

/-- What is found within limits is what is found within wider limits, or that the limits are
passed. -/
inductive Within {α : Type} (wide : Except Fault α) : Except Fault α → Prop
  | same : Within wide wide
  | tooLong : Within wide (.error .tooLong)
  | tooDeep : Within wide (.error .tooDeep)

/-- The limits are passed in a part exactly if they are passed in the whole. -/
lemma Within.map {α β : Type} {wide narrow : Except Fault α} (h : Within wide narrow) (f : α → β) :
    Within (wide.map f) (narrow.map f) := by
  cases h with
  | same => exact .same
  | tooLong => exact .tooLong
  | tooDeep => exact .tooDeep

/-- A number passes the limits if it is too long. -/
lemma within_number {digits digits' : Nat} (h : digits ≤ digits') (negative : Bool) (t : Text) :
    Within (number digits' negative t) (number digits negative t) := by
  unfold number
  split
  · exact .same
  · rename_i whole rest _
    dsimp only
    split
    · by_cases hlong : Nat.pow 10 digits ≤ natOf whole
      · rw [if_pos hlong]
        exact .tooLong
      · have hpow : Nat.pow 10 digits ≤ Nat.pow 10 digits' := Nat.pow_le_pow_right (by decide) h
        rw [if_neg hlong, if_neg (fun hlong' => hlong (Nat.le_trans hpow hlong'))]
        exact .same
    · exact .same

/-- Whatever is read with a given fuel passes the limits, or is read within wider ones too. -/
structure ReadsWithin (digits digits' fuel : Nat) : Prop where
  value {levels levels' : Nat} (h : levels ≤ levels') (t : Text) :
    Within (value digits' levels' fuel t) (value digits levels fuel t)
  items {levels levels' : Nat} (h : levels ≤ levels') (t : Text) :
    Within (items digits' levels' fuel t) (items digits levels fuel t)
  fields {levels levels' : Nat} (h : levels ≤ levels')
    (before : List (WideText × Value CodePoint)) (t : Text) :
    Within (fields digits' levels' fuel before t) (fields digits levels fuel before t)

section

variable {digits digits' fuel levels levels' : Nat}

/-- A value is read within wider limits, if its items or fields are. -/
lemma within_value (ih : ReadsWithin digits digits' fuel) (hdigits : digits ≤ digits')
    (hlevels : levels ≤ levels') (t : Text) :
    Within (value digits' levels' (fuel + 1) t) (value digits levels (fuel + 1) t) := by
  unfold value
  split
  · exact .same
  · cases levels with
    | zero => exact .tooDeep
    | succ levels =>
      obtain ⟨levels', rfl⟩ := Nat.exists_eq_add_of_lt hlevels
      dsimp only
      split
      · exact .same
      · exact (ih.items (by omega) _).map _
  · cases levels with
    | zero => exact .tooDeep
    | succ levels =>
      obtain ⟨levels', rfl⟩ := Nat.exists_eq_add_of_lt hlevels
      dsimp only
      split
      · exact .same
      · exact (ih.fields (by omega) _ _).map _
  · split
    · exact .same
    · split
      · exact within_number hdigits true _
      · exact within_number hdigits false _

/-- The items of a list are read within wider limits. -/
lemma within_items (ih : ReadsWithin digits digits' fuel) (hlevels : levels ≤ levels') (t : Text) :
    Within (items digits' levels' (fuel + 1) t) (items digits levels (fuel + 1) t) := by
  have hvalue := ih.value hlevels t
  unfold items
  generalize value digits levels fuel t = narrow at hvalue ⊢
  cases hvalue with
  | tooLong => exact .tooLong
  | tooDeep => exact .tooDeep
  | same =>
    split
    · exact .same
    · dsimp only
      split
      · exact .same
      · exact (ih.items hlevels _).map _
      · exact .same

/-- The fields of an object are read within wider limits. -/
lemma within_fields (ih : ReadsWithin digits digits' fuel) (hlevels : levels ≤ levels')
    (before : List (WideText × Value CodePoint)) (t : Text) :
    Within (fields digits' levels' (fuel + 1) before t)
      (fields digits levels (fuel + 1) before t) := by
  unfold fields
  split
  · split
    · exact .same
    · split
      · rename_i rest _
        have hvalue := ih.value hlevels (skip rest)
        generalize value digits levels fuel (skip rest) = narrow at hvalue ⊢
        cases hvalue with
        | tooLong => exact .tooLong
        | tooDeep => exact .tooDeep
        | same =>
          split
          · exact .same
          · dsimp only
            split
            · exact .same
            · exact ih.fields hlevels _ _
            · exact .same
      · exact .same
  · exact .same

end

/-- Whatever is read passes the limits, or is read within wider ones too, with any fuel. -/
lemma readsWithin {digits digits' : Nat} (h : digits ≤ digits') (fuel : Nat) :
    ReadsWithin digits digits' fuel := by
  induction fuel with
  | zero => exact ⟨fun _ _ => .same, fun _ _ => .same, fun _ _ _ => .same⟩
  | succ fuel ih =>
    exact ⟨fun hlevels => within_value ih h hlevels, within_items ih, within_fields ih⟩

/-- **Wider limits** change nothing but that more is read. -/
theorem within_readWithin {digits digits' levels levels' : Nat} (hdigits : digits ≤ digits')
    (hlevels : levels ≤ levels') (t : Text) :
    Within (readWithin digits' levels' t) (readWithin digits levels t) := by
  have hvalue := (readsWithin hdigits (2 * t.length + 2)).value hlevels (skip t)
  unfold readWithin
  generalize value digits levels (2 * t.length + 2) (skip t) = narrow at hvalue ⊢
  cases hvalue with
  | same => exact .same
  | tooLong => exact .tooLong
  | tooDeep => exact .tooDeep

/-- **A value beyond the limits** is not read, because an integer is too long or something lies too
deep.

**Proof sketch.** The text is read within limits as wide as it is long (`IsTextOf.fits`). Within
those of the reader it is read as the same value, or the limits are passed (`within_readWithin`);
and what is read keeps within them (`writable_of_read`). -/
theorem read_of_isTextOf_of_not_fits {levels : Nat} {v : Value CodePoint} {t : Text}
    (h : IsTextOf v t) (hfits : ¬Fits Text.mostDigits levels v) :
    read levels t = .error .tooLong ∨ read levels t = .error .tooDeep := by
  have hwide := readWithin_of_isTextOf h (h.fits.mono (Nat.le_max_right Text.mostDigits t.length)
    (Nat.le_max_right levels t.length))
  have hwithin := within_readWithin (Nat.le_max_left Text.mostDigits t.length)
    (Nat.le_max_left levels t.length) t
  rw [hwide] at hwithin
  rw [read]
  generalize hread : readWithin Text.mostDigits levels t = narrow at hwithin ⊢
  cases hwithin with
  | same => exact absurd (writable_of_read hread).2 hfits
  | tooLong => exact .inl rfl
  | tooDeep => exact .inr rfl

end DeclIndex.Json
