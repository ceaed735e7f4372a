import DeclIndex.Proofs.Fallible
import DeclIndex.Proofs.Text.LineEnds
import DeclIndex.Proofs.Value.JsonReader

/-!
# JSON in files

What is read from a text of JSON can be written again: its real numbers are kept as they are
written, halves of characters that stand side by side are put together, and the keys of its objects
are distinct, even if the text gives a key twice. It also keeps within the limits of the reader. A
text stays one of JSON after its line ends are made one, as they are when it is read from a file.

## Main definitions

* `Json.ReadsWritable` — what is read can be written, within the limits of the reader.

## Main results

* `Json.writable_of_read` — **what is read can be written.**
* `Json.IsTextOf.unifyBreaks` — **line ends do not matter** to what a text writes.
-/

namespace DeclIndex.Json

/-! ## Numbers that are read -/

/-- What is read as digits are digits, the first of the text among them. -/
lemma isDigits_of_digits? {t digits rest : Text} (h : digits? t = some (digits, rest)) :
    IsDigits digits ∧ digits.head? = t.head? := by
  rw [digits?] at h
  split at h
  · cases h
  · rename_i hne
    obtain ⟨rfl, -⟩ := Prod.mk.inj (Option.some.inj h)
    refine ⟨⟨by simpa using hne, fun c hc => List.mem_takeWhile_imp hc⟩, ?_⟩
    cases t with
    | nil => rfl
    | cons c t =>
      cases hc : c.isDigit with
      | true => rw [List.takeWhile_cons_of_pos hc]; rfl
      | false => simp [hc] at hne

/-- What is read as the whole part of a number is one. -/
lemma isWhole_of_whole? {t whole rest : Text} (h : whole? t = some (whole, rest)) :
    IsWhole whole := by
  unfold whole? at h
  split at h
  · obtain ⟨rfl, -⟩ := Prod.mk.inj (Option.some.inj h)
    exact .inl rfl
  · rename_i hzero
    obtain ⟨hdigits, hhead⟩ := isDigits_of_digits? h
    refine .inr ⟨hdigits, fun heq => ?_⟩
    rw [hhead] at heq
    obtain ⟨more, rfl⟩ := List.head?_eq_some_iff.mp heq
    exact hzero more rfl

/-- What is read as a fraction is one. -/
lemma isFraction_fraction (t : Text) : IsFraction (fraction t).1 := by
  unfold fraction
  split
  · split
    · rename_i hdigits
      exact .inr ⟨_, rfl, (isDigits_of_digits? hdigits).1⟩
    · exact .inl rfl
  · exact .inl rfl

/-- What is read as an exponent is one. -/
lemma isExponent_exponent (t : Text) : IsExponent (exponent t).1 := by
  unfold exponent
  split
  · rename_i c rest
    split
    · rename_i hc
      dsimp only
      split
      · rename_i hdigits
        refine .inr ⟨c, _, _, rfl, by simpa using hc, ?_, (isDigits_of_digits? hdigits).1⟩
        cases rest with
        | nil => exact .inl rfl
        | cons s rest =>
          by_cases hplus : s = '+'
          · subst hplus
            exact .inr (.inl rfl)
          · by_cases hminus : s = '-'
            · subst hminus
              exact .inr (.inr rfl)
            · exact .inl (by simp [hplus, hminus])
      · exact .inl rfl
    · exact .inl rfl
  · exact .inl rfl

/-- What is read as a number can be written, within the limits of the reader. -/
lemma writable_of_number {digits levels : Nat} {negative : Bool} {t rest : Text}
    {v : Value CodePoint} (h : number digits negative t = .ok (v, rest)) :
    Writable v ∧ Fits digits levels v := by
  unfold number at h
  split at h
  · cases h
  · rename_i whole more hwhole
    dsimp only at h
    split at h
    · split at h
      · cases h
      · rename_i hlong
        obtain ⟨rfl, -⟩ := Prod.mk.inj (Except.ok.inj h)
        refine ⟨.int _, .int ?_⟩
        cases negative <;> simpa using hlong
    · rename_i hparts
      obtain ⟨rfl, -⟩ := Prod.mk.inj (Except.ok.inj h)
      refine ⟨.real (.decimal ?_ (isWhole_of_whole? hwhole) (isFraction_fraction _)
        (isExponent_exponent _) ?_), .real _⟩
      · cases negative
        exacts [.inl rfl, .inr rfl]
      · rw [← not_and_or]
        rintro ⟨hfraction, hexponent⟩
        exact hparts (by rw [hfraction, hexponent]; rfl)

/-- What is read as a word can be written, within all limits. -/
lemma writable_of_word? {digits levels : Nat} {t rest : Text} {v : Value CodePoint}
    (h : word? t = some (v, rest)) : Writable v ∧ Fits digits levels v := by
  obtain ⟨⟨word, v'⟩, hmem, h⟩ := List.exists_of_findSome?_eq_some h
  dsimp only at h
  split at h
  · obtain ⟨rfl, -⟩ := Prod.mk.inj (Option.some.inj h)
    simp only [List.mem_cons, List.not_mem_nil, or_false, Prod.mk.injEq] at hmem
    rcases hmem with ⟨-, rfl⟩ | ⟨-, rfl⟩ | ⟨-, rfl⟩ | ⟨-, rfl⟩ | ⟨-, rfl⟩ | ⟨-, rfl⟩
    · exact ⟨.null, .null⟩
    · exact ⟨.bool _, .bool _⟩
    · exact ⟨.bool _, .bool _⟩
    all_goals exact ⟨.real (.word (by simp)), .real _⟩
  · cases h

/-! ## Texts that are read -/

/-- A surrogate is read by its number. If it is the first half of a pair, the second does not
follow. -/
lemma unit?_of_numbered? {t rest : Text} {offset : Fin 0x800}
    (h : numbered? t = some (.surrogate offset, rest)) :
    unit? t = some (0xD800 + (offset : Nat), rest) ∧ (offset < 0x400 → ∀ more low after,
      rest = '\\' :: 'u' :: more → unit? more = some (low, after) →
        ¬(0xDC00 ≤ low ∧ low ≤ 0xDFFF)) := by
  have hunit : ∀ {n : Nat}, CodePoint.ofUnit n = .surrogate offset → n = 0xD800 + offset := by
    intro n hn
    rw [CodePoint.ofUnit] at hn
    split at hn
    · rw [← CodePoint.surrogate.inj hn, Fin.val_ofNat]
      omega
    · cases hn
  unfold numbered? at h
  split at h
  · cases h
  · rename_i high after hhigh
    -- the point is read from one number unless a pair of numbers was read
    have halone : some (CodePoint.ofUnit high, after) = some (CodePoint.surrogate offset, rest) →
        high = 0xD800 + offset ∧ after = rest := by
      intro heq
      obtain ⟨hpoint, hrest⟩ := Prod.mk.inj (Option.some.inj heq)
      exact ⟨hunit hpoint, hrest⟩
    split at h
    · rename_i more
      split at h
      · split at h
        · rename_i low last hlow
          split at h
          · cases h
          · rename_i hnot
            obtain ⟨rfl, rfl⟩ := halone h
            refine ⟨hhigh, fun _ more' low' after' hmore hlow' => ?_⟩
            cases hmore
            rw [hlow] at hlow'
            cases hlow'
            simpa using hnot
        · rename_i hnone
          obtain ⟨rfl, rfl⟩ := halone h
          refine ⟨hhigh, fun _ more' low' after' hmore hlow' => ?_⟩
          cases hmore
          rw [hnone] at hlow'
          cases hlow'
      · rename_i hnot
        obtain ⟨rfl, rfl⟩ := halone h
        refine ⟨hhigh, fun hoffset => absurd ?_ hnot⟩
        have hlt : (offset : Nat) < 0x400 := hoffset
        simp only [Bool.and_eq_true, decide_eq_true_eq]
        omega
    · rename_i hother
      obtain ⟨rfl, rfl⟩ := halone h
      exact ⟨hhigh, fun _ more' low' after' hmore => absurd hmore (hother more')⟩

/-- A text that begins with a surrogate is read from a text that begins with its number. -/
lemma exists_of_string?_surrogate {fuel : Nat} {t rest : Text} {offset : Fin 0x800} {ws : WideText}
    (h : string? fuel t = some (.surrogate offset :: ws, rest)) :
    ∃ more after, t = '\\' :: 'u' :: more ∧ unit? more = some (0xD800 + (offset : Nat), after) := by
  unfold string? at h
  split at h
  · cases h
  · cases h
  · cases h
  · split at h
    · cases h
    · rename_i p after hp
      obtain ⟨⟨ws', last⟩, -, heq⟩ := Option.map_eq_some_iff.mp h
      cases heq
      exact ⟨_, _, rfl, (unit?_of_numbered? hp).1⟩
  · cases h
  · split at h
    · cases h
    · obtain ⟨⟨ws', last⟩, -, heq⟩ := Option.map_eq_some_iff.mp h
      cases heq
  · split at h
    · cases h
    · obtain ⟨⟨ws', last⟩, -, heq⟩ := Option.map_eq_some_iff.mp h
      cases heq

/-- What is read after a numbered escape stands apart from it. -/
lemma standsApart_of_numbered? {fuel : Nat} {t after rest : Text} {p : CodePoint} {ws : WideText}
    (hp : numbered? t = some (p, after)) (h : string? fuel after = some (ws, rest)) :
    StandsApart p ws := by
  intro q hq
  cases p with
  | char c => rfl
  | surrogate high =>
    cases q with
    | char c => rfl
    | surrogate low =>
      obtain ⟨ws, rfl⟩ := List.head?_eq_some_iff.mp hq
      obtain ⟨more, last, rfl, hlow⟩ := exists_of_string?_surrogate h
      rw [CodePoint.joins, Bool.and_eq_false_iff, decide_eq_false_iff_not, decide_eq_false_iff_not,
        ← not_and_or]
      rintro ⟨hhigh, hlower⟩
      have hlower' : 0x400 ≤ (low : Nat) := hlower
      have := (unit?_of_numbered? hp).2 hhigh more _ last rfl hlow
      omega

/-- **A text that is read** has no halves of characters side by side. -/
lemma isSpelled_of_string? {fuel : Nat} : ∀ {t rest : Text} {ws : WideText},
    string? fuel t = some (ws, rest) → IsSpelled ws := by
  induction fuel with
  | zero => exact fun h => by cases h
  | succ fuel ih =>
    intro t rest ws h
    have hchar : ∀ {c : Char} {t last : Text} {ws : WideText}, string? fuel t = some (ws, last) →
        IsSpelled (.char c :: ws) := fun hws => ⟨fun q _ => rfl, ih hws⟩
    unfold string? at h
    split at h
    · rename_i heq
      cases heq
    · cases h
    · cases h
      exact trivial
    · rename_i heq
      cases heq
      split at h
      · cases h
      · rename_i hp
        obtain ⟨⟨ws', last⟩, hws, heq⟩ := Option.map_eq_some_iff.mp h
        cases heq
        exact ⟨standsApart_of_numbered? hp hws, ih hws⟩
    · cases h
    · rename_i heq
      cases heq
      split at h
      · cases h
      · obtain ⟨⟨ws', last⟩, hws, heq⟩ := Option.map_eq_some_iff.mp h
        cases heq
        exact hchar hws
    · rename_i heq
      cases heq
      split at h
      · cases h
      · obtain ⟨⟨ws', last⟩, hws, heq⟩ := Option.map_eq_some_iff.mp h
        cases heq
        exact hchar hws

/-! ## Values that are read -/

/-- What was found. -/
lemma found_eq_ok_iff {α : Type} {o : Option α} {a : α} : found o = .ok a ↔ o = some a := by
  cases o <;> simp [found]

/-- What is read with a given fuel can be written, within the limits of the reader. The keys of an
object stay distinct while its fields are read. -/
structure ReadsWritable (digits fuel : Nat) : Prop where
  value {levels : Nat} {t rest : Text} {v : Value CodePoint}
    (h : value digits levels fuel t = .ok (v, rest)) : Writable v ∧ Fits digits levels v
  items {levels : Nat} {t rest : Text} {vs : List (Value CodePoint)}
    (h : items digits levels fuel t = .ok (vs, rest)) : ∀ v ∈ vs, Writable v ∧ Fits digits levels v
  fields {levels : Nat} {before fs : List (WideText × Value CodePoint)} {t rest : Text}
    (h : fields digits levels fuel before t = .ok (fs, rest)) (hbefore : Writable (.object before))
    (hfits : ∀ f ∈ before, Fits digits levels f.2) :
    Writable (.object fs) ∧ ∀ f ∈ fs, Fits digits levels f.2

section

variable {digits levels fuel : Nat} {t rest : Text}

/-- A value that is read can be written, if its items or fields can. -/
lemma writable_of_value (ih : ReadsWritable digits fuel) {v : Value CodePoint}
    (h : value digits levels (fuel + 1) t = .ok (v, rest)) : Writable v ∧ Fits digits levels v := by
  unfold value at h
  split at h
  · obtain ⟨⟨t, more⟩, ht, heq⟩ := Option.map_eq_some_iff.mp (found_eq_ok_iff.mp h)
    cases heq
    exact ⟨.text (isSpelled_of_string? ht), .text t⟩
  · split at h
    · cases h
    · split at h
      · cases h
        exact ⟨.list (by simp), .list (by simp)⟩
      · obtain ⟨⟨vs, more⟩, hitems, heq⟩ := map_eq_ok_iff.mp h
        cases heq
        have hvs := ih.items hitems
        exact ⟨.list fun v hv => (hvs v hv).1, .list fun v hv => (hvs v hv).2⟩
  · split at h
    · cases h
    · split at h
      · cases h
        exact ⟨.object List.nodup_nil (by simp) (by simp), .object (by simp)⟩
      · obtain ⟨⟨fs, more⟩, hfields, heq⟩ := map_eq_ok_iff.mp h
        cases heq
        obtain ⟨hfs, hfits⟩ := ih.fields hfields (.object List.nodup_nil (by simp) (by simp))
          (by simp)
        exact ⟨hfs, .object hfits⟩
  · split at h
    · rename_i hword
      cases h
      exact writable_of_word? hword
    · split at h
      · exact writable_of_number h
      · exact writable_of_number h

/-- The items of a list that are read can be written. -/
lemma writable_of_items (ih : ReadsWritable digits fuel) {vs : List (Value CodePoint)}
    (h : items digits levels (fuel + 1) t = .ok (vs, rest)) :
    ∀ v ∈ vs, Writable v ∧ Fits digits levels v := by
  unfold items at h
  split at h
  · cases h
  · rename_i v more hv
    split at h
    · cases h
      exact List.forall_mem_singleton.mpr (ih.value hv)
    · obtain ⟨⟨vs, more⟩, hitems, heq⟩ := map_eq_ok_iff.mp h
      cases heq
      exact List.forall_mem_cons.mpr ⟨ih.value hv, ih.items hitems⟩
    · cases h

/-- An object stays one that can be written when a field is set. -/
lemma Writable.set {fs : List (WideText × Value CodePoint)} {key : WideText} {v : Value CodePoint}
    (h : Writable (.object fs)) (hkey : IsSpelled key) (hv : Writable v) :
    Writable (.object (Assoc.set key v fs)) := by
  refine .object (Assoc.nodup_keys_set key v h.nodup_keys) (fun f hf => ?_) fun f hf => ?_
  · rcases Assoc.eq_or_mem_of_mem_set hf with rfl | hmem
    exacts [hkey, h.isSpelled f hmem]
  · rcases Assoc.eq_or_mem_of_mem_set hf with rfl | hmem
    exacts [hv, h.of_mem f hmem]

/-- The fields of an object that are read can be written. -/
lemma writable_of_fields (ih : ReadsWritable digits fuel)
    {before fs : List (WideText × Value CodePoint)}
    (h : fields digits levels (fuel + 1) before t = .ok (fs, rest))
    (hbefore : Writable (.object before)) (hfits : ∀ f ∈ before, Fits digits levels f.2) :
    Writable (.object fs) ∧ ∀ f ∈ fs, Fits digits levels f.2 := by
  unfold fields at h
  split at h
  · split at h
    · cases h
    · rename_i key _ hkey
      split at h
      · split at h
        · cases h
        · rename_i v more hv
          have hset := hbefore.set (isSpelled_of_string? hkey) (ih.value hv).1
          have hfits' : ∀ f ∈ Assoc.set key v before, Fits digits levels f.2 := by
            intro f hf
            rcases Assoc.eq_or_mem_of_mem_set hf with rfl | hmem
            exacts [(ih.value hv).2, hfits f hmem]
          dsimp only at h
          split at h
          · cases h
            exact ⟨hset, hfits'⟩
          · exact ih.fields h hset hfits'
          · cases h
      · cases h
  · cases h

end

/-- What is read can be written, with any fuel. -/
lemma readsWritable (digits fuel : Nat) : ReadsWritable digits fuel := by
  induction fuel with
  | zero => exact ⟨fun h => (by cases h), fun h => (by cases h), fun h => (by cases h)⟩
  | succ fuel ih =>
    exact ⟨writable_of_value ih, writable_of_items ih, writable_of_fields ih⟩

/-- **What is read can be written**, and keeps within the limits of the reader. -/
theorem writable_of_read {levels : Nat} {t : Text} {v : Value CodePoint}
    (h : read levels t = .ok v) : Writable v ∧ Fits Text.mostDigits levels v := by
  rw [read, readWithin] at h
  split at h
  · cases h
  · rename_i hv
    split at h
    · cases h
      exact (readsWritable _ _).value hv
    · cases h

/-! ## Line ends -/

/-- Digits hold no carriage return. -/
lemma IsDigits.not_mem {t : Text} (h : IsDigits t) : '\r' ∉ t :=
  fun hmem => by cases h.2 _ hmem

/-- A number holds no carriage return. -/
lemma IsReal.not_mem {t : Text} (h : IsReal t) : '\r' ∉ t := by
  cases h with
  | decimal hsign hwhole hfraction hexponent _ =>
    have hdigits := hwhole.isDigits.not_mem
    simp only [List.mem_append, not_or]
    refine ⟨⟨⟨?_, hdigits⟩, ?_⟩, ?_⟩
    · rcases hsign with rfl | rfl <;> simp
    · rcases hfraction with rfl | ⟨digits, rfl, hdigits⟩ <;> simp [IsDigits.not_mem, *]
    · rcases hexponent with rfl | ⟨e, sign, digits, rfl, rfl | rfl, rfl | rfl | rfl, hdigits⟩ <;>
        simp [IsDigits.not_mem, *]
  | word h =>
    simp only [List.mem_cons, List.not_mem_nil, or_false] at h
    rcases h with rfl | rfl | rfl <;> decide

/-- A whole number holds no carriage return. -/
lemma WritesInt.not_mem {n : Int} {t : Text} (h : WritesInt n t) : '\r' ∉ t := by
  cases h with
  | ofNat h => exact h.isDigits.not_mem
  | neg h => simpa using h.isDigits.not_mem

/-- Hexadecimal digits hold no carriage return. -/
lemma WritesUnit.not_mem {n : Nat} {w : Text} (h : WritesUnit n w) : '\r' ∉ w := by
  intro hmem
  obtain ⟨digits, hmap, -⟩ := h
  have hnone : none ∈ digits.map some := hmap ▸ List.mem_map.mpr ⟨_, hmem, rfl⟩
  simp at hnone

/-- What stands for a text holds no carriage return. -/
lemma WritesText.not_mem {t : WideText} {w : Text} (h : WritesText t w) : '\r' ∉ w := by
  induction h with
  | nil => exact List.not_mem_nil
  | cons h _ _ ih =>
    refine fun hmem => (List.mem_append.mp hmem).elim ?_ ih
    cases h with
    | plain hcontrol =>
      rintro hc
      cases List.mem_singleton.mp hc
      exact absurd hcontrol (by decide)
    | @short _ e h =>
      have he : e ≠ '\r' := by
        rintro rfl
        cases h
      simpa using he.symm
    | number h | surrogate h => simpa using h.not_mem
    | pair _ _ h h' => simpa using ⟨h.not_mem, h'.not_mem⟩

/-- White space stays white space. -/
lemma Spaces.unifyBreaks {s : Text} (h : Spaces s) : Spaces (Text.unifyBreaks s) := by
  induction s using Text.unifyBreaks.induct with
  | case1 => exact h
  | case2 s ih =>
    simp only [Spaces, List.forall_mem_cons] at h
    rw [Text.unifyBreaks]
    exact List.forall_mem_cons.mpr ⟨rfl, ih h.2.2⟩
  | case3 c s hpair ih =>
    obtain ⟨hc, hs⟩ := List.forall_mem_cons.mp h
    rw [Text.unifyBreaks.eq_3 c s hpair]
    refine List.forall_mem_cons.mpr ⟨?_, ih hs⟩
    split
    exacts [rfl, hc]

/-- A part of a value does not end in a carriage return. -/
lemma Writes.getLast?_ne {part : Part} {t : Text} (h : Writes part t) :
    t.getLast? ≠ some '\r' := by
  have hnot : ∀ {t : Text}, '\r' ∉ t → t.getLast? ≠ some '\r' :=
    fun hnot heq => hnot (List.mem_of_getLast? heq)
  induction h with
  | null | boolTrue | boolFalse => exact hnot (by decide)
  | int h => exact hnot h.not_mem
  | real h => exact hnot h.not_mem
  | text | emptyList | emptyObject | lastItem | lastField =>
    rw [List.getLast?_concat]
    decide
  | list _ h ih | object _ _ h ih | item _ _ _ h _ ih | field _ _ _ _ _ _ h _ ih =>
    obtain ⟨c, t, rfl, -⟩ := h.exists_cons
    rwa [List.getLast?_append_of_ne_nil _ (List.cons_ne_nil c t)]

/-- A part of a value does not begin with a line feed. -/
lemma Writes.head?_ne {part : Part} {t : Text} (h : Writes part t) : t.head? ≠ some '\n' := by
  obtain ⟨c, t, rfl, hc⟩ := h.exists_cons
  intro heq
  cases heq
  cases hc

/-- The line ends in a field are those in the white space around its tokens, and in its value. -/
lemma unifyBreaks_field {key : WideText} {w t : Text} {v : Value CodePoint}
    (hkey : WritesText key w) (h : Writes (.value v) t) (s s' s'' : Text) :
    Text.unifyBreaks ('"' :: w ++ '"' :: s ++ ':' :: s' ++ t ++ s'') =
      '"' :: w ++ '"' :: Text.unifyBreaks s ++ ':' :: Text.unifyBreaks s' ++ Text.unifyBreaks t ++
        Text.unifyBreaks s'' := by
  have hlast : ('"' :: w ++ '"' :: s ++ ':' :: s' ++ t).getLast? ≠ some '\r' := by
    obtain ⟨c, t, rfl, -⟩ := h.exists_cons
    rw [List.getLast?_append_of_ne_nil _ (List.cons_ne_nil c t)]
    exact h.getLast?_ne
  rw [Text.unifyBreaks_append (.inl hlast), Text.unifyBreaks_append (.inr h.head?_ne),
    Text.unifyBreaks_append_cons (by decide) (by decide),
    Text.unifyBreaks_append_cons (by decide) (by decide), Text.unifyBreaks_cons (by decide),
    Text.unifyBreaks_of_not_mem hkey.not_mem]

/-- **Line ends do not matter** to which part of a value a text writes. -/
theorem Writes.unifyBreaks {part : Part} {t : Text} (h : Writes part t) :
    Writes part (Text.unifyBreaks t) := by
  induction h with
  | null | boolTrue | boolFalse =>
    rw [Text.unifyBreaks_of_not_mem (by decide)]
    constructor
  | int h =>
    rw [Text.unifyBreaks_of_not_mem h.not_mem]
    exact .int h
  | real h =>
    rw [Text.unifyBreaks_of_not_mem h.not_mem]
    exact .real h
  | text h =>
    rw [Text.unifyBreaks_append_cons (by decide) (by decide), Text.unifyBreaks_cons (by decide),
      Text.unifyBreaks_of_not_mem h.not_mem]
    exact .text h
  | emptyList hs =>
    rw [Text.unifyBreaks_append_cons (by decide) (by decide), Text.unifyBreaks_cons (by decide)]
    exact .emptyList hs.unifyBreaks
  | list hs h ih =>
    rw [Text.unifyBreaks_append (.inr h.head?_ne), Text.unifyBreaks_cons (by decide)]
    exact .list hs.unifyBreaks ih
  | emptyObject hs =>
    rw [Text.unifyBreaks_append_cons (by decide) (by decide), Text.unifyBreaks_cons (by decide)]
    exact .emptyObject hs.unifyBreaks
  | object hs hkeys h ih =>
    rw [Text.unifyBreaks_append (.inr h.head?_ne), Text.unifyBreaks_cons (by decide)]
    exact .object hs.unifyBreaks hkeys ih
  | lastItem h hs ih =>
    rw [Text.unifyBreaks_append_cons (by decide) (by decide),
      Text.unifyBreaks_append (.inl h.getLast?_ne)]
    exact .lastItem ih hs.unifyBreaks
  | item h hs hs' hrest ih ih' =>
    rw [Text.unifyBreaks_append (.inr hrest.head?_ne),
      Text.unifyBreaks_append_cons (by decide) (by decide),
      Text.unifyBreaks_append (.inl h.getLast?_ne)]
    exact .item ih hs.unifyBreaks hs'.unifyBreaks ih'
  | lastField hkey hs hs' h hs'' ih =>
    rw [Text.unifyBreaks_append_cons (by decide) (by decide), unifyBreaks_field hkey h]
    exact .lastField hkey hs.unifyBreaks hs'.unifyBreaks ih hs''.unifyBreaks
  | field hkey hs hs' h hs₁ hs₂ hrest ih ih' =>
    rw [Text.unifyBreaks_append (.inr hrest.head?_ne),
      Text.unifyBreaks_append_cons (by decide) (by decide), unifyBreaks_field hkey h]
    exact .field hkey hs.unifyBreaks hs'.unifyBreaks ih hs₁.unifyBreaks hs₂.unifyBreaks ih'

/-- **Line ends do not matter** to what a text writes. -/
theorem IsTextOf.unifyBreaks {v : Value CodePoint} {t : Text} (h : IsTextOf v t) :
    IsTextOf v (Text.unifyBreaks t) := by
  obtain ⟨s, w, s', hs, hw, hs', rfl⟩ := h
  have hlast : (s ++ w).getLast? ≠ some '\r' := by
    obtain ⟨c, w, rfl, -⟩ := hw.exists_cons
    rw [List.getLast?_append_of_ne_nil _ (List.cons_ne_nil c w)]
    exact hw.getLast?_ne
  rw [Text.unifyBreaks_append (.inl hlast), Text.unifyBreaks_append (.inr hw.head?_ne)]
  exact ⟨_, _, _, hs.unifyBreaks, hw.unifyBreaks, hs'.unifyBreaks, rfl⟩

end DeclIndex.Json
