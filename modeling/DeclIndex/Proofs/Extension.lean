import DeclIndex.Extension
import DeclIndex.Proofs.Path
import DeclIndex.Proofs.Text.Lower

/-!
# Extensions and suffixes

The suffix of a file name is a dot and what follows it, which is neither empty nor holds a further
dot or a slash. An extension in normal form is that of some suffix exactly if it is an ending: a dot
with neither dot nor slash after it. In particular the empty extension is that of no file, whereas
the single dot is that of a file whose name ends in a dot and white space.

## Main definitions

* `Extension.IsEnding` — a dot, and after it neither dot nor slash.

## Main results

* `Extension.normalize_eq_nil_iff`, `Extension.normalize_eq_dot_iff` — the extensions of which
  nothing, or nothing but the dot, is left in normal form.
* `Extension.exists_suffix_iff` — the normal forms of suffixes are the endings.
-/

namespace DeclIndex

open Text

namespace Text

/-- Characters of ASCII before the capital letters are left as they are by lower case, and no other
character becomes one of them. -/
private lemma mem_of_mem_lowerAfter {d : Char} (hlt : d.toNat < 65) {t : Text} :
    ∀ {passed : Text}, d ∈ lowerAfter passed t → d ∈ t := by
  induction t with
  | nil => exact fun h => h
  | cons c t ih =>
    intro passed h
    rcases List.mem_append.mp h with h | h
    · have hother : ∀ e ∈ ['ς', 'σ', 'i', '\u0307'], e ≠ d := by
        rintro e he rfl
        have hall : ∀ e ∈ ['ς', 'σ', 'i', '\u0307'], 65 ≤ e.toNat := by simp
        exact absurd (hall e he) (by omega)
      have heq := forall_mem_lowerOf (P := fun c e => e = d → d = c)
        ⟨fun h => absurd h (hother _ (by decide)), fun h => absurd h (hother _ (by decide))⟩
        ⟨fun h => absurd h (hother _ (by decide)), fun h => absurd h (hother _ (by decide))⟩
        (fun c h => eq_of_agree (hasNoCase_of_lt hlt)
          (by rw [← h, agree, lowerChar_lowerChar]; simp)) h rfl
      exact heq ▸ List.mem_cons_self
    · exact List.mem_cons_of_mem c (ih h)

/-- Only the empty text has an empty lower case, whatever stands before it. -/
private lemma lowerAfter_eq_nil_iff {passed t : Text} : lowerAfter passed t = [] ↔ t = [] := by
  cases t with
  | nil => simp [lowerAfter]
  | cons c t => simp [lowerAfter_cons, lowerOf_ne_nil]

end Text

namespace Extension

/-! ## Normal forms -/

/-- Nothing is left of blank extensions only. -/
lemma normalize_eq_nil_iff {e : Text} : normalize e = [] ↔ trim e = [] := by
  unfold normalize
  split
  · rename_i hlower
    simpa using lower_eq_nil_iff.mp hlower
  · rename_i c rest hlower
    have hne : trim e ≠ [] := by
      intro htrim
      rw [htrim] at hlower
      cases hlower
    simp only [hne, iff_false]
    split <;> exact List.cons_ne_nil _ _

/-- The normal form of an extension that begins with a dot. -/
lemma normalize_dot_cons (rest : Text) :
    normalize ('.' :: rest) = '.' :: lowerAfter ['.'] (trimEnd rest) := by
  have htrim : trim ('.' :: rest) = '.' :: trimEnd rest := by
    rw [trim, trimStart_eq_self (t := '.' :: rest) rfl, trimEnd_cons (by decide)]
  have hlower : lower ('.' :: trimEnd rest) = '.' :: lowerAfter ['.'] (trimEnd rest) := by
    rw [lower, lowerAfter_cons]
    rfl
  rw [normalize, htrim, hlower]
  exact if_pos rfl

/-- Nothing but the dot is left of a single dot only. -/
lemma normalize_eq_dot_iff {e : Text} : normalize e = ['.'] ↔ trim e = ['.'] := by
  have hone : lower (trim e) = ['.'] ↔ trim e = ['.'] := by
    constructor
    · intro h
      cases htrim : trim e with
      | nil =>
        rw [htrim] at h
        cases h
      | cons c t =>
        rw [htrim, lower, lowerAfter_cons] at h
        have hrest : t = [] := by
          have hlength := congrArg List.length h
          have hfirst := List.length_pos_iff.mpr (lowerOf_ne_nil [] c t)
          rw [List.length_append, List.length_singleton] at hlength
          have hnone : (lowerAfter [c] t).length = 0 := by omega
          exact lowerAfter_eq_nil_iff.mp (List.eq_nil_of_length_eq_zero hnone)
        have hlowered : '.' ∈ lowerAfter [] (c :: t) := by
          rw [lowerAfter_cons, h]
          exact List.mem_cons_self
        have hmem : '.' ∈ c :: t := mem_of_mem_lowerAfter (by decide) hlowered
        rw [hrest, List.mem_singleton] at hmem
        rw [hrest, ← hmem]
    · intro h
      rw [h]
      decide
  rw [← hone]
  unfold normalize
  split
  · rename_i hlower
    rw [hlower]
  · rename_i c rest hlower
    rw [hlower]
    split
    · rfl
    · rename_i hc
      simp [hc]

/-! ## Endings -/

/-- A dot, and after it neither dot nor slash. -/
def IsEnding (e : Text) : Prop :=
  ∃ rest, e = '.' :: rest ∧ '.' ∉ rest ∧ '/' ∉ rest

/-- The suffix of a file is an ending, if it has one. -/
lemma isEnding_suffix {t : Text} (h : (Path.ofText t).suffix ≠ []) :
    IsEnding (Path.ofText t).suffix := by
  have hslash : '/' ∉ (Path.ofText t).names.getLast?.getD [] := by
    cases hlast : (Path.ofText t).names.getLast? with
    | none => exact List.not_mem_nil
    | some n => exact Path.not_mem_of_mem_ofText (List.mem_of_getLast? hlast)
  rw [Path.suffix] at h ⊢
  generalize (Path.ofText t).names.getLast?.getD [] = n at h hslash
  rw [Path.nameSuffix] at h ⊢
  split at h
  · exact absurd rfl h
  · rename_i hlength
    rw [if_neg hlength]
    rw [Path.fromLastDot] at h ⊢
    split at h
    · rename_i hshort
      rw [if_pos hshort]
      refine ⟨_, rfl, ?_, ?_⟩
      · rw [List.mem_reverse]
        intro hdot
        simpa using List.mem_takeWhile_imp hdot
      · rw [List.mem_reverse]
        intro hmem
        exact hslash (List.mem_reverse.mp ((List.takeWhile_sublist _).subset hmem))
    · exact absurd rfl h

/-- A normal form of an ending is an ending. -/
lemma IsEnding.normalize {e : Text} (h : IsEnding e) : IsEnding (Extension.normalize e) := by
  obtain ⟨rest, rfl, hdot, hslash⟩ := h
  have hsub : ∀ d : Char, d.toNat < 65 → d ∉ rest → d ∉ lowerAfter ['.'] (trimEnd rest) :=
    fun d hlt hd hmem => hd ((trimEnd_isPrefix rest).subset (mem_of_mem_lowerAfter hlt hmem))
  exact ⟨_, normalize_dot_cons rest, hsub _ (by decide) hdot, hsub _ (by decide) hslash⟩

/-- The suffix of a file name that is a letter and an ending. -/
lemma suffix_ofText {rest : Text} (hne : rest ≠ []) (hdot : '.' ∉ rest) (hslash : '/' ∉ rest) :
    (Path.ofText ('a' :: '.' :: rest)).suffix = '.' :: rest := by
  have hnames : (Path.ofText ('a' :: '.' :: rest)).names = ['a' :: '.' :: rest] := by
    rw [Path.ofText, Path.segments_of_not_mem (by simpa using hslash)]
    simp [Path.isName]
  have hafter : (('a' :: '.' :: rest).reverse.takeWhile (· != '.')).reverse = rest := by
    have hall : ∀ c ∈ rest.reverse, (c != '.') = true := by
      intro c hc
      rw [bne_iff_ne]
      rintro rfl
      exact hdot (List.mem_reverse.mp hc)
    have hsplit : ('a' :: '.' :: rest).reverse = rest.reverse ++ ['.', 'a'] := by simp
    rw [hsplit, List.takeWhile_append_of_pos hall]
    simp
  have hlast : Path.fromLastDot ('a' :: '.' :: rest) = '.' :: rest := by
    rw [Path.fromLastDot, hafter, if_pos (by simp)]
  rw [Path.suffix, hnames, List.getLast?_singleton, Option.getD_some, Path.nameSuffix, hlast]
  simpa using hne

/-- **The normal forms of suffixes are the endings** among the normal forms.

**Proof sketch.** An ending is the suffix of a file name with one letter before it, unless nothing
follows the dot. Then white space must be put after it, which the normal form leaves out. -/
theorem exists_suffix_iff {e : Text} (he : normalize e = e) :
    (∃ t, (Path.ofText t).suffix ≠ [] ∧ normalize (Path.ofText t).suffix = e) ↔ IsEnding e := by
  constructor
  · rintro ⟨t, hne, rfl⟩
    exact (isEnding_suffix hne).normalize
  · rintro ⟨rest, rfl, hdot, hslash⟩
    by_cases hrest : rest = []
    · subst hrest
      exact ⟨"a. ", by decide, by decide⟩
    · refine ⟨'a' :: '.' :: rest, ?_, ?_⟩
      · rw [suffix_ofText hrest hdot hslash]
        exact List.cons_ne_nil _ _
      · rw [suffix_ofText hrest hdot hslash, he]

end Extension

end DeclIndex
