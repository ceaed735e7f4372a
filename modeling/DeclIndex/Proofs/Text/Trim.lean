import DeclIndex.Text.Blank
import Mathlib.Data.List.TakeWhile
import Mathlib.Tactic.Common

/-!
# Trimmed texts

Trimming leaves a piece of the text, which neither begins nor ends with white space, and a text that
neither begins nor ends with white space is left as it is. So trimming twice is trimming once.

## Main results

* `Text.trim_isInfix` — trimming leaves a piece of the text.
* `Text.trim_eq_self_iff` — the texts that trimming leaves as they are.
* `Text.trim_trim` — trimming twice is trimming once.
-/

namespace DeclIndex.Text

/-! ## What is left -/

/-- Trimming the start leaves an end of the text. -/
lemma trimStart_isSuffix (t : Text) : trimStart t <:+ t :=
  List.dropWhile_suffix isBlank

/-- Trimming the end leaves a beginning of the text. -/
lemma trimEnd_isPrefix (t : Text) : trimEnd t <+: t := by
  apply List.reverse_suffix.mp
  rw [trimEnd, List.reverse_reverse]
  exact List.dropWhile_suffix isBlank

/-- **Trimming leaves a piece of the text.** -/
lemma trim_isInfix (t : Text) : trim t <:+: t :=
  (trimEnd_isPrefix _).isInfix.trans (trimStart_isSuffix t).isInfix

/-! ## The ends of a trimmed text -/

/-- A text whose start is trimmed does not begin with white space. -/
lemma any_head?_trimStart (t : Text) : (trimStart t).head?.any isBlank = false := by
  have hnot := List.head?_dropWhile_not isBlank t
  unfold trimStart
  cases hhead : (t.dropWhile isBlank).head? with
  | none => rfl
  | some c =>
    rw [hhead] at hnot
    simpa using hnot

/-- A text that does not begin with white space has none to drop there. -/
lemma trimStart_eq_self {t : Text} (h : t.head?.any isBlank = false) : trimStart t = t := by
  cases t with
  | nil => rfl
  | cons c t => exact List.dropWhile_cons_of_neg (by simpa using h)

/-- A text that does not end with white space has none to drop there. -/
lemma trimEnd_eq_self {t : Text} (h : t.getLast?.any isBlank = false) : trimEnd t = t := by
  rw [← List.head?_reverse] at h
  have hreverse : t.reverse.dropWhile isBlank = t.reverse := trimStart_eq_self h
  rw [trimEnd, hreverse, List.reverse_reverse]

/-- Trimming the end of a text changes its beginning only if nothing is left. -/
lemma head?_trimEnd (t : Text) : trimEnd t = [] ∨ (trimEnd t).head? = t.head? := by
  obtain ⟨u, hu⟩ := trimEnd_isPrefix t
  cases hcons : trimEnd t with
  | nil => exact Or.inl rfl
  | cons c w => exact Or.inr (by rw [← hu, hcons]; rfl)

/-- A text whose end is trimmed does not end with white space. -/
lemma any_getLast?_trimEnd (t : Text) : (trimEnd t).getLast?.any isBlank = false := by
  rw [trimEnd, List.getLast?_reverse]
  exact any_head?_trimStart _

/-- A trimmed text does not end with white space. -/
lemma any_getLast?_trim (t : Text) : (trim t).getLast?.any isBlank = false :=
  any_getLast?_trimEnd _

/-- A trimmed text does not begin with white space: it begins like the text whose start was trimmed,
unless it is empty. -/
lemma any_head?_trim (t : Text) : (trim t).head?.any isBlank = false := by
  rw [trim]
  rcases head?_trimEnd (trimStart t) with h | h
  · rw [h]
    rfl
  · rw [h]
    exact any_head?_trimStart t

/-- A beginning of a text that does not begin with white space does not either. -/
lemma any_head?_of_prefix {s t : Text} (h : s <+: t) (ht : t.head?.any isBlank = false) :
    s.head?.any isBlank = false := by
  obtain ⟨u, rfl⟩ := h
  cases s with
  | nil => rfl
  | cons c s => exact ht

/-- An end of a text that does not end with white space does not either. -/
lemma any_getLast?_of_suffix {s t : Text} (h : s <:+ t) (ht : t.getLast?.any isBlank = false) :
    s.getLast?.any isBlank = false := by
  obtain ⟨u, rfl⟩ := h
  rw [List.getLast?_append] at ht
  cases hlast : s.getLast? with
  | none => rfl
  | some c =>
    rw [hlast] at ht
    exact ht

/-- A text that does not begin with white space is not blank. -/
lemma trim_cons_ne_nil {c : Char} (hc : isBlank c = false) (t : Text) : trim (c :: t) ≠ [] := by
  rw [trim, trimStart_eq_self (t := c :: t) hc, trimEnd, Ne, List.reverse_eq_nil_iff,
    List.dropWhile_eq_nil_iff]
  intro hblank
  rw [hblank c (by simp)] at hc
  exact absurd hc (by decide)

/-- **The texts that trimming leaves as they are** neither begin nor end with white space. -/
lemma trim_eq_self_iff {t : Text} :
    trim t = t ↔ t.head?.any isBlank = false ∧ t.getLast?.any isBlank = false := by
  constructor
  · intro h
    rw [← h]
    exact ⟨any_head?_trim t, any_getLast?_trim t⟩
  · rintro ⟨hhead, hlast⟩
    rw [trim, trimStart_eq_self hhead, trimEnd_eq_self hlast]

/-- **Trimming twice is trimming once.** -/
@[simp]
lemma trim_trim (t : Text) : trim (trim t) = trim t :=
  trim_eq_self_iff.mpr ⟨any_head?_trim t, any_getLast?_trim t⟩

end DeclIndex.Text
