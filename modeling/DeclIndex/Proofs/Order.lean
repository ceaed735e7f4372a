import DeclIndex.Order
import DeclIndex.Text.Basic
import Mathlib.Data.List.Basic
import Mathlib.Tactic.Common

/-!
# Sorted lists

Sorting puts a list in order if the comparison is asymmetric and what it does not put in order is
transitive. Texts are ordered strictly and totally. If no two elements of a list have the same text,
the list sorted by that text does not depend on the order it had before.

## Main results

* `Text.before_irrefl`, `Text.before_trans`, `Text.before_trichotomy` — the order of texts.
* `pairwise_sortBy` — a sorted list is in order.
* `pairwise_sortBy_text` — a list sorted by distinct texts is in their order.
* `sortBy_text_eq_of_perm` — the order before sorting makes no difference.
* `filter_sortBy_text` — choosing before sorting is choosing after it.
* `length_le_of_find?_sortBy` — of texts sorted by length, the first that passes a test is a longest.
-/

namespace DeclIndex

/-! ## The order of texts -/

namespace Text

/-- No text comes before itself. -/
lemma before_irrefl (t : Text) : before t t = false := by
  induction t with
  | nil => rfl
  | cons c t ih => rw [before, if_pos rfl, ih]

/-- Of two different texts, one comes before the other. -/
lemma before_trichotomy (s t : Text) : before s t ∨ s = t ∨ before t s := by
  induction s generalizing t with
  | nil =>
    cases t with
    | nil => exact .inr (.inl rfl)
    | cons b t => exact .inl rfl
  | cons a s ih =>
    cases t with
    | nil => exact .inr (.inr rfl)
    | cons b t =>
      by_cases hab : a = b
      · subst hab
        rw [before, before, if_pos rfl, if_pos rfl]
        rcases ih t with h | rfl | h
        · exact .inl h
        · exact .inr (.inl rfl)
        · exact .inr (.inr h)
      · rw [before, before, if_neg hab, if_neg (Ne.symm hab)]
        have hval : a.val.toNat ≠ b.val.toNat := by
          intro h
          exact hab (Char.ext (UInt32.toNat_inj.mp h))
        simp only [decide_eq_true_eq, UInt32.lt_iff_toNat_lt]
        omega

/-- What comes before a text comes before everything after that text. -/
lemma before_trans {s t u : Text} (hst : before s t) (htu : before t u) : before s u := by
  induction s generalizing t u with
  | nil =>
    cases u with
    | nil =>
      cases t with
      | nil => exact htu
      | cons b t => exact absurd htu Bool.false_ne_true
    | cons c u => rfl
  | cons a s ih =>
    cases t with
    | nil => exact absurd hst Bool.false_ne_true
    | cons b t =>
      cases u with
      | nil => exact absurd htu Bool.false_ne_true
      | cons c u =>
        rw [before] at hst htu ⊢
        by_cases hab : a = b
        · subst hab
          rw [if_pos rfl] at hst
          by_cases hac : a = c
          · rw [if_pos hac] at htu ⊢
            exact ih hst htu
          · rw [if_neg hac] at htu ⊢
            exact htu
        · rw [if_neg hab] at hst
          by_cases hbc : b = c
          · subst hbc
            rw [if_neg hab]
            exact hst
          · rw [if_neg hbc] at htu
            simp only [decide_eq_true_eq, UInt32.lt_iff_toNat_lt] at hst htu
            have hac : a ≠ c := by
              rintro rfl
              omega
            rw [if_neg hac]
            simp only [decide_eq_true_eq, UInt32.lt_iff_toNat_lt]
            omega

/-- Of two texts, only one can come before the other. -/
lemma before_asymm {s t : Text} (h : before s t) : before t s = false := by
  cases hts : before t s with
  | false => rfl
  | true =>
    have hss := before_trans h hts
    rw [before_irrefl] at hss
    exact absurd hss Bool.false_ne_true

/-- What does not come before a text does not come before anything that the text does not come
before. -/
lemma not_before_trans {s t u : Text} (hst : before t s = false) (htu : before u t = false) :
    before u s = false := by
  cases hus : before u s with
  | false => rfl
  | true =>
    rcases before_trichotomy s t with h | rfl | h
    · rw [before_trans hus h] at htu
      exact htu
    · rw [hus] at htu
      exact htu
    · rw [h] at hst
      exact hst

end Text

/-! ## Sorting -/

section

variable {α : Type} (before : α → α → Bool) (hasymm : ∀ a b, before a b → before b a = false)
  (htrans : ∀ a b c, before b a = false → before c b = false → before c a = false)

include hasymm htrans

/-- An element is put where it is in order. -/
lemma pairwise_insertBy (a : α) {l : List α} (hl : l.Pairwise fun b c => before c b = false) :
    (insertBy before a l).Pairwise fun b c => before c b = false := by
  induction l with
  | nil => exact List.pairwise_singleton _ a
  | cons b rest ih =>
    obtain ⟨hb, hrest⟩ := List.pairwise_cons.mp hl
    unfold insertBy
    split
    · rename_i hba
      refine List.pairwise_cons.mpr ⟨fun c hc => ?_, ih hrest⟩
      rcases List.mem_cons.mp ((insertBy_perm _ a rest).mem_iff.mp hc) with rfl | hc
      · exact hasymm _ _ hba
      · exact hb c hc
    · rename_i hba
      have hba : before b a = false := by simpa using hba
      refine List.pairwise_cons.mpr ⟨fun c hc => ?_, hl⟩
      rcases List.mem_cons.mp hc with rfl | hc
      · exact hba
      · exact htrans _ _ _ hba (hb c hc)

/-- A sorted list is in order, up to elements of equal rank. -/
lemma pairwise_sortBy (l : List α) :
    (sortBy before l).Pairwise fun a b => before b a = false := by
  induction l with
  | nil => exact List.Pairwise.nil
  | cons a rest ih => exact pairwise_insertBy before hasymm htrans a ih

end

/-! ## Sorting by length -/

/-- Of texts that are sorted by length, none comes after a shorter one. -/
lemma pairwise_sortBy_length (texts : List Text) :
    (sortBy (fun a b => b.length < a.length) texts).Pairwise fun a b => b.length ≤ a.length := by
  have horder := pairwise_sortBy (fun a b : Text => decide (b.length < a.length))
    (fun a b hab => by rw [decide_eq_true_eq] at hab; exact decide_eq_false (by omega))
    (fun a b c hba hcb => by
      rw [decide_eq_false_iff_not] at hba hcb
      exact decide_eq_false (by omega)) texts
  exact horder.imp fun {a b} hab => by simpa using hab

/-- Of texts that are sorted by length, no text that passes a test is longer than the first. -/
lemma length_le_of_find?_sortBy {texts : List Text} {test : Text → Bool} {s t : Text}
    (h : (sortBy (fun a b => b.length < a.length) texts).find? test = some t) (hs : s ∈ texts)
    (hpass : test s = true) : s.length ≤ t.length := by
  obtain ⟨-, longer, shorter, hsplit, hlonger⟩ := List.find?_eq_some_iff_append.mp h
  have horder := pairwise_sortBy_length texts
  rw [hsplit] at horder
  rw [← mem_sortBy (fun a b : Text => b.length < a.length), hsplit] at hs
  rcases List.mem_append.mp hs with hs | hs
  · exact absurd hpass (by simpa using hlonger s hs)
  · rcases List.mem_cons.mp hs with rfl | hs
    · exact Nat.le_refl _
    · exact (List.pairwise_cons.mp (List.pairwise_append.mp horder).2.1).1 s hs

/-! ## Sorting by a text -/

section

variable {α : Type} (key : α → Text)

/-- **Sorted lists are in order.** If no two elements have the same text, each element of the
sorted list comes before all that follow it. -/
theorem pairwise_sortBy_text {l : List α} (hl : (l.map key).Nodup) :
    (sortBy (fun a b => Text.before (key a) (key b)) l).Pairwise
      fun a b => Text.before (key a) (key b) := by
  have hnodup : (sortBy (fun a b => Text.before (key a) (key b)) l).Pairwise
      fun a b => key a ≠ key b :=
    List.pairwise_map.mp (((sortBy_perm _ l).map key).nodup_iff.mpr hl)
  have horder : (sortBy (fun a b => Text.before (key a) (key b)) l).Pairwise
      fun a b => Text.before (key b) (key a) = false :=
    pairwise_sortBy (fun a b => Text.before (key a) (key b)) (fun _ _ => Text.before_asymm)
      (fun _ _ _ => Text.not_before_trans) l
  refine (horder.and hnodup).imp fun {a b} h => ?_
  rcases Text.before_trichotomy (key a) (key b) with hab | hab | hab
  · exact hab
  · exact absurd hab h.2
  · rw [h.1] at hab
    exact absurd hab Bool.false_ne_true

/-- Elements can be put in the order of their texts in one way only. -/
lemma eq_of_perm_of_pairwise_text {key : α → Text} {l₁ l₂ : List α} (hperm : l₁.Perm l₂)
    (h₁ : l₁.Pairwise fun a b => Text.before (key a) (key b))
    (h₂ : l₂.Pairwise fun a b => Text.before (key a) (key b)) : l₁ = l₂ := by
  refine hperm.eq_of_pairwise (fun a b _ _ hab hba => ?_) h₁ h₂
  rw [Text.before_asymm hab] at hba
  exact absurd hba Bool.false_ne_true

/-- **Sorting forgets the order.** If no two elements have the same text, rearranging a list makes
no difference to the sorted list. -/
theorem sortBy_text_eq_of_perm {l₁ l₂ : List α} (hperm : l₁.Perm l₂) (hl : (l₁.map key).Nodup) :
    sortBy (fun a b => Text.before (key a) (key b)) l₁ =
      sortBy (fun a b => Text.before (key a) (key b)) l₂ := by
  have hl₂ : (l₂.map key).Nodup := (hperm.map key).nodup_iff.mp hl
  exact eq_of_perm_of_pairwise_text (((sortBy_perm _ l₁).trans hperm).trans (sortBy_perm _ l₂).symm)
    (pairwise_sortBy_text key hl) (pairwise_sortBy_text key hl₂)

/-- **Sorting and choosing may change places.** If no two elements have the same text, the sorted
list of some of the elements is made of those elements of the sorted list. -/
theorem filter_sortBy_text (test : α → Bool) {l : List α} (hl : (l.map key).Nodup) :
    (sortBy (fun a b => Text.before (key a) (key b)) l).filter test =
      sortBy (fun a b => Text.before (key a) (key b)) (l.filter test) := by
  have hchosen : ((l.filter test).map key).Nodup := (List.filter_sublist.map key).nodup hl
  exact eq_of_perm_of_pairwise_text (((sortBy_perm _ l).filter test).trans (sortBy_perm _ _).symm)
    ((pairwise_sortBy_text key hl).filter test) (pairwise_sortBy_text key hchosen)

end

end DeclIndex
