import DeclIndex.Path
import Mathlib.Data.List.Basic
import Mathlib.Tactic.Common

/-!
# Texts of paths

A path is told by its text as long as its names hold no slash: the text can be split at the slashes
again. Paths below the same path that have the same text are therefore the same.

## Main results

* `Path.segments_joinWith` — splitting at slashes undoes joining with slashes.
* `Path.eq_of_text_join_eq` — the text of a path below another tells the names below.
* `Path.not_mem_of_mem_segments` — the parts of a text between slashes hold no slash.
-/

namespace DeclIndex

namespace Text

/-- One text alone needs no separator. -/
lemma joinWith_singleton (separator t : Text) : joinWith separator [t] = t :=
  List.intercalate_singleton

/-- A separator stands between the first text and the others. -/
lemma joinWith_cons (separator t : Text) {parts : List Text} (h : parts ≠ []) :
    joinWith separator (t :: parts) = t ++ separator ++ joinWith separator parts := by
  rw [joinWith, List.intercalate_cons_of_ne_nil h]
  rfl

/-- A separator stands between the texts of two lists. -/
lemma joinWith_append (separator : Text) {parts others : List Text} (h : parts ≠ [])
    (hothers : others ≠ []) :
    joinWith separator (parts ++ others) =
      joinWith separator parts ++ separator ++ joinWith separator others := by
  induction parts with
  | nil => exact absurd rfl h
  | cons t parts ih =>
    cases parts with
    | nil => rw [List.singleton_append, joinWith_cons _ _ hothers, joinWith_singleton]
    | cons u parts =>
      rw [List.cons_append, joinWith_cons _ _ (by simp), ih (by simp),
        joinWith_cons separator t (List.cons_ne_nil u parts)]
      simp only [List.append_assoc]

end Text

namespace Path

/-! ## Splitting at slashes -/

/-- There is always a part. -/
lemma segments_ne_nil (t : Text) : segments t ≠ [] := by
  cases t with
  | nil => exact List.cons_ne_nil _ _
  | cons c t =>
    rw [segments]
    split
    · exact List.cons_ne_nil _ _
    · split <;> exact List.cons_ne_nil _ _

/-- A text without a slash is one part. -/
lemma segments_of_not_mem {t : Text} (h : '/' ∉ t) : segments t = [t] := by
  induction t with
  | nil => rfl
  | cons c t ih =>
    rw [List.mem_cons, not_or] at h
    obtain ⟨hc, ht⟩ := h
    rw [segments, if_neg (Ne.symm hc), ih ht]

/-- The first part ends at the first slash. -/
lemma segments_append_slash {s : Text} (h : '/' ∉ s) (t : Text) :
    segments (s ++ '/' :: t) = s :: segments t := by
  induction s with
  | nil => rw [List.nil_append, segments, if_pos rfl]
  | cons c s ih =>
    rw [List.mem_cons, not_or] at h
    obtain ⟨hc, hs⟩ := h
    rw [List.cons_append, segments, if_neg (Ne.symm hc), ih hs]

/-- The parts of a text between slashes hold no slash. -/
lemma not_mem_of_mem_segments {t s : Text} (h : s ∈ segments t) : '/' ∉ s := by
  induction t generalizing s with
  | nil =>
    obtain rfl := List.mem_singleton.mp h
    exact List.not_mem_nil
  | cons c t ih =>
    rw [segments] at h
    split at h
    · rcases List.mem_cons.mp h with rfl | h
      · exact List.not_mem_nil
      · exact ih h
    · rename_i hc
      split at h
      · rename_i hnil
        exact absurd hnil (segments_ne_nil t)
      · rename_i first others hsegments
        rw [hsegments] at ih
        rcases List.mem_cons.mp h with rfl | h
        · rw [List.mem_cons, not_or]
          exact ⟨Ne.symm hc, ih List.mem_cons_self⟩
        · exact ih (List.mem_cons_of_mem _ h)

/-- **Splitting undoes joining.** The parts of names joined with slashes are the names, if they hold
no slash. -/
theorem segments_joinWith {names : List Text} (hne : names ≠ []) (h : ∀ n ∈ names, '/' ∉ n) :
    segments (Text.joinWith ['/'] names) = names := by
  induction names with
  | nil => exact absurd rfl hne
  | cons n names ih =>
    obtain ⟨hn, hnames⟩ := List.forall_mem_cons.mp h
    cases names with
    | nil => rw [Text.joinWith_singleton, segments_of_not_mem hn]
    | cons m names =>
      rw [Text.joinWith_cons _ _ (by simp), List.append_assoc, List.singleton_append,
        segments_append_slash hn, ih (by simp) hnames]

/-! ## Paths below a path -/

/-- The text of a path below another, with at least one name more. -/
lemma text_join (p : Path) {names : List Text} (hne : names ≠ []) :
    (p.join names).text = (if p.names.isEmpty then p.root
      else p.root ++ Text.joinWith ['/'] p.names ++ ['/']) ++ Text.joinWith ['/'] names := by
  have hnames : (p.names ++ names).isEmpty = false := by
    simpa using fun _ => hne
  unfold text join
  dsimp only
  rw [hnames, Bool.and_false, if_neg Bool.false_ne_true]
  by_cases hp : p.names = []
  · rw [hp, List.nil_append]
    rfl
  · rw [Text.joinWith_append _ hp hne, if_neg (by simpa using hp)]
    simp only [List.append_assoc]

/-- **The text tells the names below a path.** Two paths below the same path with the same text have
the same names, if the names below hold no slash. -/
theorem eq_of_text_join_eq (p : Path) {a b : List Text} (ha : a ≠ []) (hb : b ≠ [])
    (hslash : ∀ n ∈ a, '/' ∉ n) (hslash' : ∀ n ∈ b, '/' ∉ n)
    (h : (p.join a).text = (p.join b).text) : a = b := by
  rw [text_join p ha, text_join p hb] at h
  have hjoined := List.append_cancel_left h
  rw [← segments_joinWith ha hslash, hjoined, segments_joinWith hb hslash']

/-- The names of a path that is written hold no slash. -/
lemma not_mem_of_mem_ofText {t n : Text} (h : n ∈ (ofText t).names) : '/' ∉ n :=
  not_mem_of_mem_segments (List.mem_of_mem_filter h)

end Path

end DeclIndex
