import DeclIndex.Proofs.Text.AsciiLower

/-!
# Lower case

The lower case of a text is made character by character: every character gives one or two small
ones, and which ones it gives depends on its neighbours only in the case of a capital sigma. White
space and line breaks have no case. A small character is its own lower case, so that the lower case
of a text is its own lower case.

## Main definitions

* `Text.lowerOf` — what a character gives, between its neighbours.

## Main results

* `Text.isBlank_lowerChar`, `Text.isBreak_lowerChar` — white space and line breaks have no case.
* `Text.lowerChar_lowerChar`, `Text.lower_lower` — lower case is its own lower case.
* `Text.isBlank_of_mem_lowerOf` — what a character gives is white space if the character is.
-/

namespace DeclIndex.Text

/-! ## Single characters -/

/-- A character whose lower case is found by a row of the table is not white space, and neither is
its lower case. -/
private lemma isBlank_of_row {r : Nat × Nat × Nat × Nat} (hr : r ∈ Table.lowerMapping) {c : Char}
    (hc : onStep r.1 r.2.1 r.2.2.1 c.toNat = true) :
    isBlank c = false ∧ isBlank (Char.ofNat (r.2.2.2 + (c.toNat - r.1))) = false := by
  obtain ⟨hfirst, hlast, _⟩ := onStep_iff.mp hc
  constructor
  · by_contra hblank
    have hmiss := (missed_of_hasNoCase (hasNoCase_of_isBlank (by simpa using hblank)) hr).1
    omega
  · by_contra hblank
    have hmiss := (missed_of_hasNoCase (hasNoCase_of_isBlank (by simpa using hblank)) hr).2
    rw [toNat_ofNat_of_row hr hc] at hmiss
    omega

/-- **White space has no case.** -/
lemma isBlank_lowerChar (c : Char) : isBlank (lowerChar c) = isBlank c := by
  rcases lowerChar_cases c with ⟨_, h⟩ | ⟨_, h⟩ | ⟨r, hr, hc, h⟩
  · rw [h, isBlank_toLower]
  · rw [h]
  · obtain ⟨hblank, himage⟩ := isBlank_of_row hr hc
    rw [h, hblank, himage]

/-- Line breaks are white space. -/
lemma isBlank_of_isBreak {c : Char} (h : isBreak c = true) : isBlank c = true := by
  simp only [isBreak, Bool.or_eq_true, Bool.and_eq_true, decide_eq_true_eq, beq_iff_eq] at h
  simp only [isBlank, Bool.or_eq_true, Bool.and_eq_true, decide_eq_true_eq, beq_iff_eq]
  omega

/-- What is not white space is no line break. -/
lemma isBreak_of_isBlank {c : Char} (h : isBlank c = false) : isBreak c = false := by
  by_contra hbreak
  rw [isBlank_of_isBreak (by simpa using hbreak)] at h
  exact absurd h (by decide)

/-- **Line breaks have no case.** -/
lemma isBreak_lowerChar (c : Char) : isBreak (lowerChar c) = isBreak c := by
  rcases lowerChar_cases c with ⟨_, h⟩ | ⟨_, h⟩ | ⟨r, hr, hc, h⟩
  · rw [h, isBreak_toLower]
  · rw [h]
  · obtain ⟨hblank, himage⟩ := isBlank_of_row hr hc
    rw [h, isBreak_of_isBlank hblank, isBreak_of_isBlank himage]

/-- Whether no character of a row leads to a character of another: the images lie before it, behind
it, or on every other number between its characters. `Nat.blt` keeps the check of all pairs short. -/
private def missesRow (r q : Nat × Nat × Nat × Nat) : Bool :=
  (r.2.2.2 + (r.2.1 - r.1)).blt q.1 || q.2.1.blt r.2.2.2 ||
    ((r.2.2.1 == 2 || r.1 == r.2.1) && q.2.2.1 == 2 && (r.2.2.2 + q.1) % 2 == 1)

/-- The images of a row that misses another are on none of its steps. -/
private lemma onStep_of_missesRow {r q : Nat × Nat × Nat × Nat} (h : missesRow r q = true) {n : Nat}
    (hn : onStep r.1 r.2.1 r.2.2.1 n = true) :
    onStep q.1 q.2.1 q.2.2.1 (r.2.2.2 + (n - r.1)) = false := by
  obtain ⟨hfirst, hlast, hstep⟩ := onStep_iff.mp hn
  rw [← Bool.not_eq_true, onStep_iff]
  rintro ⟨hfirst', hlast', hstep'⟩
  simp only [missesRow, Bool.or_eq_true, Bool.and_eq_true, Nat.blt_eq, beq_iff_eq] at h
  rcases h with (h | h) | ⟨⟨htwo | hone, htwo'⟩, hodd⟩
  · omega
  · omega
  · rw [htwo] at hstep
    rw [htwo'] at hstep'
    omega
  · rw [htwo'] at hstep'
    omega

/-- No row of the table leads to a character of a row. -/
private lemma rows_miss_rows :
    (Table.lowerMapping.all fun r => Table.lowerMapping.all fun q => missesRow r q) = true := by
  decide +kernel

/-- **The lower case of a character is its own lower case.**

**Proof sketch.** In ASCII the case of a letter makes no difference to its lower case. A row of the
table leads to a small letter of ASCII, or to a character that is in no row. -/
lemma lowerChar_lowerChar (c : Char) : lowerChar (lowerChar c) = lowerChar c := by
  rcases lowerChar_cases c with ⟨_, h⟩ | ⟨_, h⟩ | ⟨r, hr, hc, h⟩
  · rw [h, lowerChar_toLower, h]
  · rw [h, h]
  · obtain ⟨hfirst, hlast, _⟩ := onStep_iff.mp hc
    rw [h]
    by_cases hascii : r.2.2.2 < 128
    · have hone := (rows_to_chars r hr).1.2 hascii
      have hsmall := (rows_to_chars r hr).1.1
      rw [lowerChar, if_pos (by rw [toNat_ofNat_of_row hr hc]; omega)]
      exact toLower_of_lt (by rw [toNat_ofNat_of_row hr hc]; omega)
    · have hmisses : Table.lowerMapping.find? (fun q => onStep q.1 q.2.1 q.2.2.1
          (r.2.2.2 + (c.toNat - r.1))) = none := by
        rw [List.find?_eq_none]
        intro q hq
        have hmiss := List.all_eq_true.mp (List.all_eq_true.mp rows_miss_rows r hr) q hq
        rw [onStep_of_missesRow hmiss hc]
        exact Bool.false_ne_true
      rw [lowerChar, toNat_ofNat_of_row hr hc, if_neg (by omega), hmisses]

/-! ## Texts -/

/-- What a character gives in lower case, with the characters before it, nearest first, and those
after it. -/
def lowerOf (passed : Text) (c : Char) (rest : Text) : Text :=
  if c = 'Σ' then [if endsWord passed rest then 'ς' else 'σ']
  else if c = 'İ' then ['i', '\u0307']
  else [lowerChar c]

/-- The lower case of a text is what its characters give, one after the other. -/
lemma lowerAfter_cons (passed : Text) (c : Char) (rest : Text) :
    lowerAfter passed (c :: rest) = lowerOf passed c rest ++ lowerAfter (c :: passed) rest :=
  rfl

/-- Every character gives something. -/
lemma lowerOf_ne_nil (passed : Text) (c : Char) (rest : Text) : lowerOf passed c rest ≠ [] := by
  unfold lowerOf
  split_ifs <;> simp

/-- What holds of the lower case of every character, and of what the two letters give that have a
lower case of their own, holds of all that is given. -/
lemma forall_mem_lowerOf {P : Char → Char → Prop} (hsigma : P 'Σ' 'ς' ∧ P 'Σ' 'σ')
    (hdotted : P 'İ' 'i' ∧ P 'İ' '\u0307') (hchar : ∀ c, P c (lowerChar c)) {passed : Text} {c : Char}
    {rest : Text} {d : Char} (hd : d ∈ lowerOf passed c rest) : P c d := by
  unfold lowerOf at hd
  split_ifs at hd with h hends h
  · rw [List.mem_singleton] at hd
    rw [h, hd]
    exact hsigma.1
  · rw [List.mem_singleton] at hd
    rw [h, hd]
    exact hsigma.2
  · rw [h]
    rcases List.mem_pair.mp hd with rfl | rfl
    · exact hdotted.1
    · exact hdotted.2
  · rw [List.mem_singleton] at hd
    rw [hd]
    exact hchar c

/-- What a character gives is white space if the character is. -/
lemma isBlank_of_mem_lowerOf {passed : Text} {c : Char} {rest : Text} {d : Char}
    (hd : d ∈ lowerOf passed c rest) : isBlank d = isBlank c :=
  forall_mem_lowerOf (P := fun c d => isBlank d = isBlank c) (by decide) (by decide)
    isBlank_lowerChar hd

/-- What a character gives is a line break if the character is. -/
lemma isBreak_of_mem_lowerOf {passed : Text} {c : Char} {rest : Text} {d : Char}
    (hd : d ∈ lowerOf passed c rest) : isBreak d = isBreak c :=
  forall_mem_lowerOf (P := fun c d => isBreak d = isBreak c) (by decide) (by decide)
    isBreak_lowerChar hd

/-- What a character gives is its own lower case. -/
lemma lowerChar_of_mem_lowerOf {passed : Text} {c : Char} {rest : Text} {d : Char}
    (hd : d ∈ lowerOf passed c rest) : lowerChar d = d :=
  forall_mem_lowerOf (P := fun _ d => lowerChar d = d) (by decide) (by decide)
    lowerChar_lowerChar hd

/-- The characters of a text in lower case are given by characters of the text. -/
lemma exists_of_mem_lower {t : Text} {d : Char} (hd : d ∈ lower t) :
    ∃ c ∈ t, ∃ passed rest, d ∈ lowerOf passed c rest := by
  have hafter : ∀ (t passed : Text), d ∈ lowerAfter passed t →
      ∃ c ∈ t, ∃ passed rest, d ∈ lowerOf passed c rest := by
    intro t
    induction t with
    | nil => intro passed hd; simp [lowerAfter] at hd
    | cons c t ih =>
      intro passed hd
      rcases List.mem_append.mp hd with hd | hd
      · exact ⟨c, List.mem_cons_self, passed, t, hd⟩
      · obtain ⟨e, he, hgiven⟩ := ih (c :: passed) hd
        exact ⟨e, List.mem_cons_of_mem c he, hgiven⟩
  exact hafter t [] hd

/-- Only the empty text has an empty lower case. -/
lemma lower_eq_nil_iff {t : Text} : lower t = [] ↔ t = [] := by
  cases t with
  | nil => simp [lower, lowerAfter]
  | cons c t => simp [lower, lowerAfter_cons, lowerOf_ne_nil]

/-- A text of characters that are their own lower case is its own lower case. -/
lemma lower_eq_self {t : Text} (h : ∀ c ∈ t, lowerChar c = c) : lower t = t := by
  have hafter : ∀ (t passed : Text), (∀ c ∈ t, lowerChar c = c) → lowerAfter passed t = t := by
    intro t
    induction t with
    | nil => intro passed _; rfl
    | cons c t ih =>
      intro passed h
      have hc := h c List.mem_cons_self
      have hsigma : c ≠ 'Σ' := by
        rintro rfl
        exact absurd hc (by decide)
      have hdotted : c ≠ 'İ' := by
        rintro rfl
        exact absurd hc (by decide)
      rw [lowerAfter_cons, lowerOf, if_neg hsigma, if_neg hdotted, hc,
        ih _ fun d hd => h d (List.mem_cons_of_mem c hd)]
      rfl
  exact hafter t [] h

/-- **The lower case of a text is its own lower case.** -/
@[simp]
lemma lower_lower (t : Text) : lower (lower t) = lower t := by
  apply lower_eq_self
  intro d hd
  obtain ⟨c, _, passed, rest, hgiven⟩ := exists_of_mem_lower hd
  exact lowerChar_of_mem_lowerOf hgiven

/-- The lower case of a text begins with white space if the text does. -/
lemma any_head?_lower (t : Text) : (lower t).head?.any isBlank = t.head?.any isBlank := by
  cases t with
  | nil => rfl
  | cons c t =>
    rw [lower, lowerAfter_cons]
    cases hgiven : lowerOf [] c t with
    | nil => exact absurd hgiven (lowerOf_ne_nil [] c t)
    | cons d more =>
      have hd : d ∈ lowerOf [] c t := by
        rw [hgiven]
        exact List.mem_cons_self
      exact isBlank_of_mem_lowerOf hd

/-- The lower case of a text ends with white space if the text does.

**Proof sketch.** Induction on the text: its last character gives the last ones of its lower case. -/
lemma any_getLast?_lower (t : Text) : (lower t).getLast?.any isBlank = t.getLast?.any isBlank := by
  have hafter : ∀ (t passed : Text),
      (lowerAfter passed t).getLast?.any isBlank = t.getLast?.any isBlank := by
    intro t
    induction t with
    | nil => intro passed; rfl
    | cons c t ih =>
      intro passed
      rw [lowerAfter_cons]
      cases t with
      | nil =>
        rw [lowerAfter, List.append_nil]
        cases hlast : (lowerOf passed c []).getLast? with
        | none => exact absurd (List.getLast?_eq_none_iff.mp hlast) (lowerOf_ne_nil passed c [])
        | some d => exact isBlank_of_mem_lowerOf (List.mem_of_getLast? hlast)
      | cons d t =>
        have hne : lowerAfter (c :: passed) (d :: t) ≠ [] := by
          simp [lowerAfter_cons, lowerOf_ne_nil]
        rw [List.getLast?_append_of_ne_nil _ hne, ih, List.getLast?_cons_cons]
  exact hafter t []

end DeclIndex.Text
