import DeclIndex.Pattern.Word
import DeclIndex.Proofs.Text.Letter
import Mathlib.Data.List.Forall2
import Mathlib.Tactic.Common

/-!
# Words that stand alone

The pattern for a list of words matches somewhere in a text exactly if one of the words stands alone
in it: neither a word character nor a dollar sign just before or just after. The runs in question
have no loops, so that for each part of the pattern it can be said when a run succeeds.

## Main definitions

* `Pattern.isNeighbour` — the characters that may not stand next to a whole word.
* `Pattern.Stands` — a word that stands alone in a text.

## Main results

* `Pattern.sameChar_of_isWord` — word characters are not the same as others without case.
* `Pattern.any_occursIn_ofWords` — the pattern for words occurs where one of them stands alone.
* `Pattern.stands_append_apart_iff` — the words of a text in which a separator stands.
* `Pattern.stands_separators_append_iff` — the words of a text that begins with separators.
-/

namespace DeclIndex.Pattern

/-- The characters that may not stand next to a whole word. -/
def isNeighbour (fold : Bool) (c : Char) : Bool :=
  accepts fold false [.kind .word false, .char '$'] c

/-- Case told apart, these are the word characters and the dollar sign. -/
lemma isNeighbour_false (c : Char) : isNeighbour false c = (Text.isWord c || '$' == c) := by
  simp [isNeighbour, accepts, Member.lists, CharKind.holds]

/-- A word stands alone in a text: it occurs there, up to case with `fold`, with no neighbour before
or after it. -/
def Stands (fold : Bool) (w t : Text) : Prop :=
  ∃ before v after, t = before ++ (v ++ after) ∧ List.Forall₂ (fun c d => sameChar fold c d) w v ∧
    before.getLast?.any (isNeighbour fold) = false ∧ after.head?.any (isNeighbour fold) = false

/-! ## Characters that are no part of a word -/

/-- Which of two characters is written makes no difference. -/
lemma sameChar_comm (fold : Bool) (c d : Char) : sameChar fold c d = sameChar fold d c := by
  cases fold with
  | false => exact Bool.beq_comm
  | true => exact Text.agree_comm c d

/-- Case told apart, a word character is not the same as one that is none. -/
lemma sameChar_false_of_isWord {c d : Char} (hd : Text.isWord d = false) (hc : Text.isWord c = true) :
    sameChar false d c = false := by
  refine beq_eq_false_iff_ne.mpr ?_
  rintro rfl
  rw [hd] at hc
  simp at hc

/-- Up to case, it is not the same as one that is none and has no case. -/
lemma sameChar_of_isWord {fold : Bool} {c d : Char} (hd : Text.isWord d = false)
    (hcaseless : Text.hasNoCase d = true) (hc : Text.isWord c = true) :
    sameChar fold d c = false := by
  have hne := sameChar_false_of_isWord hd hc
  cases fold with
  | false => exact hne
  | true =>
    rw [sameChar, if_pos rfl]
    exact Bool.eq_false_iff.mpr fun h =>
      beq_eq_false_iff_ne.mp hne (Text.eq_of_agree hcaseless h)

/-! ## Runs without loops -/

section Runs

variable {fold : Bool} {k : Continuation} {passed rest : Text} {groups : List (Nat × Span)}

/-- A text is taken character by character. -/
lemma run_word_cons (c : Char) (w : Text) :
    (Expr.word (c :: w)).run fold k = takeOne (sameChar fold c) ((Expr.word w).run fold k) := by
  cases w with
  | nil => rfl
  | cons d w => rfl

/-- The run of a text succeeds if the text follows and the continuation succeeds after it. -/
lemma isSome_run_word (w : Text) : ∀ passed rest,
    ((Expr.word w).run fold k ⟨passed, rest, groups⟩).isSome = true ↔
      ∃ v after, rest = v ++ after ∧ List.Forall₂ (fun c d => sameChar fold c d) w v ∧
        (k ⟨v.reverse ++ passed, after, groups⟩).isSome = true := by
  induction w with
  | nil =>
    intro passed rest
    constructor
    · exact fun h => ⟨[], rest, rfl, .nil, h⟩
    · rintro ⟨v, after, rfl, hv, h⟩
      cases hv
      exact h
  | cons c w ih =>
    intro passed rest
    rw [run_word_cons]
    constructor
    · intro h
      cases rest with
      | nil => simp [takeOne] at h
      | cons d rest =>
        rw [takeOne] at h
        split at h
        · rename_i hd
          obtain ⟨v, after, rfl, hv, hk⟩ := (ih _ _).mp h
          exact ⟨d :: v, after, rfl, .cons hd hv, by rwa [List.reverse_cons, List.append_assoc]⟩
        · simp at h
    · rintro ⟨_, after, rfl, hv, hk⟩
      cases hv with
      | @cons _ d _ v hd hv =>
        rw [List.reverse_cons, List.append_assoc] at hk
        rw [List.cons_append, takeOne, if_pos hd]
        exact (ih _ _).mpr ⟨v, after, rfl, hv, hk⟩

/-- The run of several alternatives succeeds if the run of one of them does. -/
lemma isSome_run_oneOf (es : List Expr) (s : State) :
    ((Expr.oneOf es).run fold k s).isSome = true ↔
      ∃ e ∈ es, (e.run fold k s).isSome = true := by
  induction es with
  | nil =>
    obtain ⟨passed, rest, groups⟩ := s
    cases rest with
    | nil => simp [Expr.oneOf, Expr.run, takeOne]
    | cons c rest => simp [Expr.oneOf, Expr.run, takeOne, accepts]
  | cons e es ih =>
    cases es with
    | nil => simp [Expr.oneOf]
    | cons e' es =>
      rw [List.exists_mem_cons_iff, ← ih]
      cases hrun : e.run fold k s with
      | none => simp [Expr.oneOf, Expr.run, hrun]
      | some r => simp [Expr.oneOf, Expr.run, hrun]

/-- A neighbour is one character. -/
lemma run_wordNeighbour : wordNeighbour.run fold k = takeOne (isNeighbour fold) k := rfl

/-- No neighbour before. -/
lemma run_notBehind_wordNeighbour :
    (Expr.notBehind 1 wordNeighbour).run fold k ⟨passed, rest, groups⟩ =
      if passed.head?.any (isNeighbour fold) then none else k ⟨passed, rest, groups⟩ := by
  cases passed with
  | nil => rfl
  | cons c passed =>
    rw [List.head?_cons, Option.any_some]
    cases hc : isNeighbour fold c with
    | false => simp [Expr.run, State.back?, State.stepBack, run_wordNeighbour, takeOne, hc]
    | true => simp [Expr.run, State.back?, State.stepBack, run_wordNeighbour, takeOne, hc]

/-- No neighbour after. -/
lemma run_notAhead_wordNeighbour :
    (Expr.notAhead wordNeighbour).run fold k ⟨passed, rest, groups⟩ =
      if rest.head?.any (isNeighbour fold) then none else k ⟨passed, rest, groups⟩ := by
  cases rest with
  | nil => rfl
  | cons c rest =>
    rw [List.head?_cons, Option.any_some]
    cases hc : isNeighbour fold c with
    | false => simp [Expr.run, run_wordNeighbour, takeOne, hc]
    | true => simp [Expr.run, run_wordNeighbour, takeOne, hc]

end Runs

/-! ## Matches -/

/-- A pattern matches at or after a position if it matches at some place in the rest. -/
lemma isSome_findFrom? {p : Pattern} (rest : Text) : ∀ passed,
    (p.findFrom? passed rest).isSome = true ↔
      ∃ before after, rest = before ++ after ∧
        (p.matchAt? (before.reverse ++ passed) after).isSome = true := by
  induction rest with
  | nil =>
    intro passed
    constructor
    · exact fun h => ⟨[], [], rfl, h⟩
    · rintro ⟨before, after, h, hmatch⟩
      obtain ⟨rfl, rfl⟩ := List.nil_eq_append_iff.mp h
      exact hmatch
  | cons c rest ih =>
    intro passed
    have hpassed : ∀ before : Text,
        (c :: before).reverse ++ passed = before.reverse ++ c :: passed := by simp
    rw [findFrom?]
    constructor
    · intro h
      split at h
      · rename_i found hhere
        exact ⟨[], c :: rest, rfl, by rw [List.reverse_nil, List.nil_append, hhere]; rfl⟩
      · obtain ⟨before, after, rfl, hmatch⟩ := (ih _).mp h
        exact ⟨c :: before, after, rfl, by rwa [hpassed]⟩
    · rintro ⟨before, after, h, hmatch⟩
      split
      · rfl
      · rename_i hhere
        cases before with
        | nil =>
          rw [List.nil_append] at h
          subst h
          rw [List.reverse_nil, List.nil_append, hhere] at hmatch
          simp at hmatch
        | cons d before =>
          obtain ⟨rfl, hrest⟩ := List.cons.inj h
          exact (ih _).mpr ⟨before, after, hrest, by rwa [← hpassed]⟩

/-- Words match at a position if one of them follows and has no neighbours. -/
lemma isSome_matchAt?_alone (fold : Bool) (words : List Text) (names : List (Text × Nat))
    (groups : Nat) (passed rest : Text) :
    (matchAt? ⟨alone (.oneOf (words.map .word)), names, groups, fold⟩ passed rest).isSome = true ↔
      passed.head?.any (isNeighbour fold) = false ∧
      ∃ w ∈ words, ∃ v after, rest = v ++ after ∧
        List.Forall₂ (fun c d => sameChar fold c d) w v ∧
        after.head?.any (isNeighbour fold) = false := by
  rw [matchAt?, Option.isSome_map, alone, Expr.seq, Expr.seq, Expr.seq, Expr.run,
    run_notBehind_wordNeighbour]
  cases passed.head?.any (isNeighbour fold) with
  | true => simp
  | false =>
    rw [if_neg (by simp), Expr.run, isSome_run_oneOf]
    simp only [List.mem_map, exists_exists_and_eq_and, isSome_run_word,
      run_notAhead_wordNeighbour, true_and]
    simp

/-- **The pattern for words occurs where one of them stands alone.** -/
theorem any_occursIn_ofWords (fold : Bool) (words : List Text) (t : Text) :
    ((ofWords fold words).any fun m => m.occursIn t) = true ↔ ∃ w ∈ words, Stands fold w t := by
  rw [ofWords]
  split
  · rename_i hwords
    rw [List.isEmpty_iff.mp hwords]
    simp
  · rw [Option.any_some, occursIn, find?, isSome_findFrom?]
    simp only [isSome_matchAt?_alone, List.append_nil, longestFirst, mem_sortBy,
      List.head?_reverse]
    constructor
    · rintro ⟨before, after, rfl, hbefore, w, hw, v, after, rfl, hv, hafter⟩
      exact ⟨w, hw, before, v, after, rfl, hv, hbefore, hafter⟩
    · rintro ⟨w, hw, before, v, after, rfl, hv, hbefore, hafter⟩
      exact ⟨before, v ++ after, rfl, hbefore, w, hw, v, after, rfl, hv, hafter⟩

/-- Whether a word stands alone can be seen from the pattern for it. -/
instance (fold : Bool) (w t : Text) : Decidable (Stands fold w t) :=
  decidable_of_iff (((ofWords fold [w]).any fun m => m.occursIn t) = true)
    (by rw [any_occursIn_ofWords]; simp)

/-! ## Words that stand alone -/

/-- Case told apart, a word stands alone where the word itself occurs. -/
lemma stands_false_iff {w t : Text} :
    Stands false w t ↔ ∃ before after, t = before ++ (w ++ after) ∧
      before.getLast?.any (isNeighbour false) = false ∧
      after.head?.any (isNeighbour false) = false := by
  have heq : ∀ v, List.Forall₂ (fun c d => sameChar false c d = true) w v ↔ w = v := by
    intro v
    simp only [sameChar, Bool.false_eq_true, if_false, beq_iff_eq]
    rw [List.forall₂_eq_eq_eq]
  constructor
  · rintro ⟨before, v, after, rfl, hv, hbefore, hafter⟩
    exact ⟨before, after, by rw [(heq v).mp hv], hbefore, hafter⟩
  · rintro ⟨before, after, rfl, hbefore, hafter⟩
    exact ⟨before, w, after, rfl, (heq w).mpr rfl, hbefore, hafter⟩

section Separated

variable {fold : Bool} {w m rest : Text} {c : Char}

/-- Every character of a text that is taken for a word is taken for one of the word. -/
lemma exists_same_of_mem {v : Text} (h : List.Forall₂ (fun c d => sameChar fold c d = true) w v)
    {d : Char} (hd : d ∈ v) : ∃ c ∈ w, sameChar fold c d = true := by
  induction h with
  | nil => exact absurd hd List.not_mem_nil
  | @cons c e w v hce _ ih =>
    rcases List.mem_cons.mp hd with rfl | hd
    · exact ⟨c, List.mem_cons_self, hce⟩
    · obtain ⟨c, hc, hcd⟩ := ih hd
      exact ⟨c, List.mem_cons_of_mem _ hc, hcd⟩

/-- A text without characters holds no word. -/
lemma not_stands_nil (hw : w ≠ []) : ¬Stands fold w [] := by
  rintro ⟨before, v, after, h, hv, _⟩
  obtain ⟨rfl, -⟩ := List.append_eq_nil_iff.mp (List.append_eq_nil_iff.mp h.symm).2
  exact hw (List.forall₂_nil_right_iff.mp hv)

/-- What stands before a word is its own last character. -/
lemma any_getLast?_append_cons (test : Char → Bool) (hc : test c = false) (m before : Text) :
    (m ++ c :: before).getLast?.any test = before.getLast?.any test := by
  cases before with
  | nil => simp [hc]
  | cons d before => rw [List.getLast?_append_of_ne_nil _ (by simp), List.getLast?_cons_cons]

/-- **The words of a text in which a separator stands**: those before it and those after it. No
character of the word is taken for the separator, so that the word cannot go across. -/
lemma stands_append_apart_iff (hw : w ≠ []) (hapart : ∀ d ∈ w, sameChar fold d c = false)
    (hc : isNeighbour fold c = false) (text : Text) :
    Stands fold w (text ++ c :: rest) ↔ Stands fold w text ∨ Stands fold w rest := by
  constructor
  · rintro ⟨before, v, after, htext, hv, hbefore, hafter⟩
    have hnot : c ∉ v := by
      intro hmem
      obtain ⟨d, hd, hsame⟩ := exists_same_of_mem hv hmem
      exact absurd (hsame.symm.trans (hapart d hd)) (by decide)
    rcases List.append_eq_append_iff.mp htext with ⟨x, rfl, hx⟩ | ⟨x, rfl, hx⟩
    · cases x with
      | nil =>
        cases hv with
        | nil => exact absurd rfl hw
        | cons _ _ => exact absurd (List.cons.inj hx).1 fun hd => hnot (hd ▸ List.mem_cons_self)
      | cons d x =>
        obtain ⟨rfl, rfl⟩ := List.cons.inj hx
        rw [any_getLast?_append_cons _ hc] at hbefore
        exact Or.inr ⟨x, v, after, rfl, hv, hbefore, hafter⟩
    · rcases List.append_eq_append_iff.mp hx with ⟨y, rfl, hy⟩ | ⟨y, rfl, hy⟩
      · refine Or.inl ⟨before, v, y, rfl, hv, hbefore, ?_⟩
        cases y with
        | nil => rfl
        | cons d y => rwa [hy] at hafter
      · cases y with
        | nil => exact Or.inl ⟨before, x, [], by simp, by simpa using hv, hbefore, rfl⟩
        | cons d y => exact absurd (List.cons.inj hy).1 fun hd => hnot (by simp [hd])
  · rintro (⟨before, v, after, rfl, hv, hbefore, hafter⟩ | ⟨before, v, after, rfl, hv, hbefore, hafter⟩)
    · refine ⟨before, v, after ++ c :: rest, by simp, hv, hbefore, ?_⟩
      cases after with
      | nil => exact hc
      | cons d after => exact hafter
    · refine ⟨text ++ c :: before, v, after, by simp, hv, ?_, hafter⟩
      rwa [any_getLast?_append_cons _ hc]

/-- The words of a text that begins with separators are those of what follows. -/
lemma stands_separators_append_iff (hw : w ≠ []) {separators : Text}
    (hapart : ∀ c ∈ separators, ∀ d ∈ w, sameChar fold d c = false)
    (hneighbour : ∀ c ∈ separators, isNeighbour fold c = false) :
    Stands fold w (separators ++ rest) ↔ Stands fold w rest := by
  induction separators with
  | nil => rfl
  | cons c separators ih =>
    rw [List.forall_mem_cons] at hapart hneighbour
    have hsplit : Stands fold w ([] ++ c :: (separators ++ rest)) ↔
        Stands fold w [] ∨ Stands fold w (separators ++ rest) :=
      stands_append_apart_iff hw hapart.1 hneighbour.1 []
    rw [List.cons_append, ← List.nil_append (c :: (separators ++ rest)), hsplit,
      or_iff_right (not_stands_nil hw)]
    exact ih hapart.2 hneighbour.2

/-- Case told apart, a word of neighbours does not go across what is none. -/
lemma stands_append_separator_iff (hw : w ≠ []) (hwords : ∀ d ∈ w, isNeighbour false d = true)
    (hc : isNeighbour false c = false) (text : Text) :
    Stands false w (text ++ c :: rest) ↔ Stands false w text ∨ Stands false w rest := by
  refine stands_append_apart_iff hw (fun d hd => beq_eq_false_iff_ne.mpr ?_) hc text
  rintro rfl
  exact absurd ((hwords d hd).symm.trans hc) (by decide)

/-- A text of neighbours is one word. -/
lemma stands_iff_eq (hm : ∀ d ∈ m, isNeighbour false d = true) : Stands false w m ↔ w = m := by
  constructor
  · intro h
    obtain ⟨before, after, rfl, hbefore, hafter⟩ := stands_false_iff.mp h
    cases after with
    | cons d after =>
      rw [List.head?_cons, Option.any_some, hm d (by simp)] at hafter
      exact absurd hafter (by decide)
    | nil =>
      cases hlast : before.getLast? with
      | some d =>
        rw [hlast, Option.any_some, hm d (List.mem_append_left _ (List.mem_of_getLast? hlast))]
          at hbefore
        exact absurd hbefore (by decide)
      | none => simp [List.getLast?_eq_none_iff.mp hlast]
  · rintro rfl
    exact stands_false_iff.mpr ⟨[], [], by simp, rfl, rfl⟩

/-- **The words of a text that begins with a word**: this word, and those of what follows. -/
lemma stands_append_cons_iff (hw : w ≠ []) (hwords : ∀ d ∈ w, isNeighbour false d = true)
    (hm : ∀ d ∈ m, isNeighbour false d = true) (hc : isNeighbour false c = false) :
    Stands false w (m ++ c :: rest) ↔ w = m ∨ Stands false w rest := by
  rw [stands_append_separator_iff hw hwords hc, stands_iff_eq hm]

end Separated

end DeclIndex.Pattern
