import DeclIndex.Proofs.Order
import DeclIndex.Proofs.Pattern.WholeWord
import DeclIndex.Proofs.Pattern.WrittenWords
import DeclIndex.Proofs.Text.Letter

/-!
# The word that is found

A pattern for words finds the longest word that stands alone at the leftmost position where one
does. The words are alternatives, longer ones first, and one that stands at the position but not
alone is given up for a shorter one. Which words there are therefore decides what is found, not how
they are listed.

A search tries one position after the other, so that it is enough to know what a pattern matches at
a single position. For words this is the first word in the order of the alternatives that stands
alone there.

## Main definitions

* `Pattern.StandsAt` — a word stands alone at a position of a text.
* `Pattern.IsFirstLongest` — a longest word that stands alone at the leftmost position.

## Main results

* `Pattern.find?_eq_some_iff` — a search finds the leftmost match.
* `Pattern.matchIn?_words` — what a pattern for words matches at a position.
* `Pattern.find?_ofWords` — what it finds in a text.
-/

namespace DeclIndex.Pattern

/-! ## Searches -/

section

variable {p : Pattern} {found : Found}

/-- The match of a pattern at a position of a text. -/
def matchIn? (p : Pattern) (t : Text) (i : Nat) : Option Found :=
  p.matchAt? (t.take i).reverse (t.drop i)

/-- A search from a position on finds the first match there or further right. -/
private lemma findFrom?_eq_some_iff (rest : Text) : ∀ passed,
    p.findFrom? passed rest = some found ↔ ∃ i ≤ rest.length,
      p.matchAt? ((rest.take i).reverse ++ passed) (rest.drop i) = some found ∧
        ∀ j < i, p.matchAt? ((rest.take j).reverse ++ passed) (rest.drop j) = none := by
  induction rest with
  | nil =>
    intro passed
    constructor
    · exact fun h => ⟨0, Nat.le_refl 0, h, fun j hj => absurd hj (Nat.not_lt_zero j)⟩
    · rintro ⟨i, hi, h, -⟩
      obtain rfl := Nat.le_zero.mp hi
      exact h
  | cons c rest ih =>
    intro passed
    have hpassed : ∀ i, ((c :: rest).take (i + 1)).reverse ++ passed =
        (rest.take i).reverse ++ c :: passed := by simp
    rw [findFrom?]
    constructor
    · intro h
      split at h
      · rename_i first hfirst
        obtain rfl := Option.some.inj h
        exact ⟨0, Nat.zero_le _, hfirst, fun j hj => absurd hj (Nat.not_lt_zero j)⟩
      · rename_i hnone
        obtain ⟨i, hi, hmatch, hbefore⟩ := (ih _).mp h
        refine ⟨i + 1, Nat.succ_le_succ hi, by rwa [hpassed], fun j hj => ?_⟩
        cases j with
        | zero => exact hnone
        | succ j =>
          rw [hpassed]
          exact hbefore j (Nat.lt_of_succ_lt_succ hj)
    · rintro ⟨i, hi, hmatch, hbefore⟩
      cases i with
      | zero =>
        have hhere : p.matchAt? passed (c :: rest) = some found := hmatch
        rw [hhere]
      | succ i =>
        have hhere : p.matchAt? passed (c :: rest) = none := hbefore 0 (Nat.succ_pos i)
        rw [hhere]
        refine (ih _).mpr ⟨i, Nat.le_of_succ_le_succ hi, by rwa [hpassed] at hmatch, fun j hj => ?_⟩
        rw [← hpassed]
        exact hbefore (j + 1) (Nat.succ_lt_succ hj)

/-- **A search finds the leftmost match.** -/
lemma find?_eq_some_iff {t : Text} : p.find? t = some found ↔
    ∃ i ≤ t.length, p.matchIn? t i = some found ∧ ∀ j < i, p.matchIn? t j = none := by
  rw [find?, findFrom?_eq_some_iff]
  simp only [List.append_nil]
  rfl

end

/-! ## Words that stand alone -/

/-- A word stands at a position of a text, up to case with `fold`, and neither a word character nor
a dollar sign comes just before or just after it. -/
structure StandsAt (fold : Bool) (t w : Text) (i : Nat) : Prop where
  le_length : i ≤ t.length
  occurs : List.Forall₂ (fun c d => sameChar fold c d = true) w ((t.drop i).take w.length)
  before : ∀ c ∈ (t.take i).getLast?, Text.isWord c = false ∧ c ≠ '$'
  after : ∀ c ∈ (t.drop (i + w.length)).head?, Text.isWord c = false ∧ c ≠ '$'

/-- The dollar sign has no case. -/
lemma lists_dollar (fold : Bool) (c : Char) :
    (Member.char '$').lists fold c = true ↔ c = '$' := by
  cases fold with
  | false => exact beq_iff_eq.trans eq_comm
  | true =>
    refine ⟨fun h => (Text.eq_of_agree (Text.hasNoCase_of_lt (by decide)) h).symm, ?_⟩
    rintro rfl
    decide

/-- Whether case is told apart or not, the neighbours that a word may not have are the word
characters and the dollar sign. -/
lemma isNeighbour_eq_false_iff (fold : Bool) (c : Char) :
    isNeighbour fold c = false ↔ Text.isWord c = false ∧ c ≠ '$' := by
  have hword : (Member.kind .word false).lists fold c = Text.isWord c := Bool.bne_false _
  rw [Ne, ← lists_dollar fold c, ← hword, isNeighbour, accepts]
  simp only [List.any_cons, List.any_nil, Bool.or_false, Bool.bne_false, Bool.or_eq_false_iff,
    Bool.not_eq_true]

/-- No character next to a position is a neighbour that a word may not have. -/
lemma any_isNeighbour_eq_false_iff (fold : Bool) (next : Option Char) :
    next.any (isNeighbour fold) = false ↔ ∀ c ∈ next, Text.isWord c = false ∧ c ≠ '$' := by
  cases next with
  | none => simp
  | some c => simp [isNeighbour_eq_false_iff]

/-- A word stands alone if it stands at the position and has no neighbours. -/
lemma standsAt_iff {fold : Bool} {t w : Text} {i : Nat} :
    StandsAt fold t w i ↔ i ≤ t.length ∧
      List.Forall₂ (fun c d => sameChar fold c d = true) w ((t.drop i).take w.length) ∧
      (t.take i).getLast?.any (isNeighbour fold) = false ∧
      (t.drop (i + w.length)).head?.any (isNeighbour fold) = false := by
  simp only [any_isNeighbour_eq_false_iff]
  exact ⟨fun h => ⟨h.le_length, h.occurs, h.before, h.after⟩,
    fun h => ⟨h.1, h.2.1, h.2.2.1, h.2.2.2⟩⟩

instance (fold : Bool) (t w : Text) (i : Nat) : Decidable (StandsAt fold t w i) :=
  decidable_of_iff' _ standsAt_iff

/-- A word stands alone in a text if it does so at some position. -/
lemma stands_iff_exists {fold : Bool} {t w : Text} :
    Stands fold w t ↔ ∃ i, StandsAt fold t w i := by
  constructor
  · rintro ⟨before, v, after, rfl, hv, hbefore, hafter⟩
    have hlength := hv.length_eq
    refine ⟨before.length, standsAt_iff.mpr ⟨by simp, ?_, ?_, ?_⟩⟩
    · rwa [List.drop_left, hlength, List.take_left]
    · rwa [List.take_left]
    · rwa [← List.append_assoc, hlength, ← List.length_append, List.drop_left]
  · rintro ⟨i, h⟩
    obtain ⟨hi, hoccurs, hbefore, hafter⟩ := standsAt_iff.mp h
    refine ⟨t.take i, (t.drop i).take w.length, t.drop (i + w.length), ?_, hoccurs, hbefore, hafter⟩
    rw [← List.drop_drop, List.take_append_drop, List.take_append_drop]

/-! ## Matches at a position -/

section

variable {fold : Bool} {k : Continuation} {passed rest : Text} {groups : List (Nat × Span)}

/-- Of several alternatives the first whose run succeeds is taken. -/
lemma run_oneOf (es : List Expr) (s : State) :
    (Expr.oneOf es).run fold k s = es.findSome? fun e => e.run fold k s := by
  induction es with
  | nil =>
    obtain ⟨passed, rest, groups⟩ := s
    cases rest with
    | nil => rfl
    | cons c rest => rfl
  | cons e es ih =>
    cases es with
    | nil =>
      rw [List.findSome?_cons]
      cases hrun : e.run fold k s with
      | none => exact hrun
      | some r => exact hrun
    | cons e' es =>
      rw [List.findSome?_cons, ← ih]
      cases hrun : e.run fold k s with
      | none => simp only [Expr.oneOf, Expr.run, hrun]
      | some r => simp only [Expr.oneOf, Expr.run, hrun]

/-- The run of a text goes on after it if the text follows. -/
lemma run_word_of_occurs (w : Text)
    (h : List.Forall₂ (fun c d => sameChar fold c d = true) w (rest.take w.length)) :
    (Expr.word w).run fold k ⟨passed, rest, groups⟩ =
      k ⟨(rest.take w.length).reverse ++ passed, rest.drop w.length, groups⟩ := by
  induction w generalizing passed rest with
  | nil => rfl
  | cons c w ih =>
    rw [run_word_cons]
    cases rest with
    | nil => cases h
    | cons d rest =>
      obtain ⟨hd, hw⟩ := List.forall₂_cons.mp h
      rw [takeOne, if_pos hd, ih hw]
      simp

/-- The run of a text fails if the text does not follow. -/
lemma run_word_of_not_occurs (w : Text)
    (h : ¬ List.Forall₂ (fun c d => sameChar fold c d = true) w (rest.take w.length)) :
    (Expr.word w).run fold k ⟨passed, rest, groups⟩ = none := by
  by_contra hrun
  obtain ⟨v, after, rfl, hv, -⟩ := (isSome_run_word w _ _).mp (Option.isSome_iff_ne_none.mpr hrun)
  refine h ?_
  rwa [hv.length_eq, List.take_left]

end

/-- What one of the words matches at a position where no neighbour comes before. -/
private lemma map_run_word {fold : Bool} {t : Text} {i : Nat} (hi : i ≤ t.length)
    (hbefore : (t.take i).getLast?.any (isNeighbour fold) = false) (w : Text)
    {standing : Bool} (hstanding : standing = true ↔ StandsAt fold t w i) :
    (((Expr.word w).run fold ((Expr.notAhead wordNeighbour).run fold some)
      ⟨(t.take i).reverse, t.drop i, []⟩).map fun s => (⟨⟨i, s.position⟩, s.groups⟩ : Found)) =
      if standing then some ⟨⟨i, i + w.length⟩, []⟩ else none := by
  by_cases hoccurs : List.Forall₂ (fun c d => sameChar fold c d = true) w ((t.drop i).take w.length)
  · rw [run_word_of_occurs w hoccurs, run_notAhead_wordNeighbour, List.drop_drop]
    cases hafter : (t.drop (i + w.length)).head?.any (isNeighbour fold) with
    | true =>
      have hnot : standing = false := by
        rw [← Bool.not_eq_true, hstanding]
        intro h
        rw [(standsAt_iff.mp h).2.2.2] at hafter
        exact absurd hafter Bool.false_ne_true
      rw [hnot]
      rfl
    | false =>
      have hstands : standing = true :=
        hstanding.mpr (standsAt_iff.mpr ⟨hi, hoccurs, hbefore, hafter⟩)
      have hlength := hoccurs.length_eq
      rw [hstands, if_neg Bool.false_ne_true, if_pos rfl, Option.map_some]
      simp only [State.position, List.length_append, List.length_reverse, ← hlength,
        List.length_take_of_le hi, Nat.add_comm]
  · have hnot : standing = false := by
      rw [← Bool.not_eq_true, hstanding]
      exact fun h => hoccurs h.occurs
    rw [run_word_of_not_occurs w hoccurs, hnot]
    rfl

/-- **What a pattern for words matches at a position**: the first of its alternatives that stands
alone there. -/
lemma matchIn?_words {fold : Bool} (words : List Text) {t : Text} {i : Nat} (hi : i ≤ t.length)
    {test : Text → Bool} (htest : ∀ w, test w = true ↔ StandsAt fold t w i) :
    matchIn? ⟨alone (.oneOf (words.map .word)), [], 0, fold⟩ t i =
      (words.find? test).map fun w => ⟨⟨i, i + w.length⟩, []⟩ := by
  rw [matchIn?, matchAt?, alone, Expr.seq, Expr.seq, Expr.seq, Expr.run,
    run_notBehind_wordNeighbour, List.head?_reverse, List.length_reverse,
    List.length_take_of_le hi]
  cases hbefore : (t.take i).getLast?.any (isNeighbour fold) with
  | true =>
    have hnone : words.find? test = none := by
      refine List.find?_eq_none.mpr fun w _ hw => ?_
      rw [(standsAt_iff.mp ((htest w).mp hw)).2.2.1] at hbefore
      exact absurd hbefore Bool.false_ne_true
    rw [if_pos rfl, hnone]
    rfl
  | false =>
    rw [if_neg Bool.false_ne_true, Expr.run, run_oneOf, List.findSome?_map]
    induction words with
    | nil => rfl
    | cons w words ih =>
      have hword := map_run_word hi hbefore w (htest w)
      rw [List.findSome?_cons, List.find?_cons, Function.comp_apply]
      cases hw : test w with
      | true =>
        rw [hw, if_pos rfl] at hword
        obtain ⟨s, hs, hfound⟩ := Option.map_eq_some_iff.mp hword
        rw [hs, Option.map_some, hfound]
        rfl
      | false =>
        rw [hw, if_neg Bool.false_ne_true, Option.map_eq_none_iff] at hword
        rw [hword]
        exact ih

/-! ## Matches in a text -/

/-- A longest of some words that stand alone at a position, and the position is the leftmost where
one of them does. -/
structure IsFirstLongest (fold : Bool) (words : List Text) (t : Text) (i : Nat) (w : Text) :
    Prop where
  mem : w ∈ words
  stands : StandsAt fold t w i
  leftmost : ∀ v ∈ words, ∀ j, StandsAt fold t v j → i ≤ j
  longest : ∀ v ∈ words, StandsAt fold t v i → v.length ≤ w.length

section

variable {fold : Bool} {words : List Text} {p : Pattern}

/-- The words of a pattern are its alternatives, longer ones first. -/
lemma eq_of_ofWords (hp : ofWords fold words = some p) :
    p = ⟨alone (.oneOf ((longestFirst words).map .word)), [], 0, fold⟩ := by
  unfold ofWords at hp
  split at hp
  · cases hp
  · exact (Option.some.inj hp).symm

/-- **The word that is found** is a longest that stands alone at the leftmost position.

**Proof sketch.** At each position the first alternative that stands alone there is taken
(`matchIn?_words`), and since the alternatives are sorted, none that stands alone there is longer.
A search takes the first position with a match (`find?_eq_some_iff`). -/
lemma find?_words_eq_some_iff (hp : ofWords fold words = some p) {t : Text} {found : Found} :
    p.find? t = some found ↔
      ∃ i w, IsFirstLongest fold words t i w ∧ found = ⟨⟨i, i + w.length⟩, []⟩ := by
  obtain rfl := eq_of_ofWords hp
  have hmatch : ∀ j ≤ t.length,
      matchIn? ⟨alone (.oneOf ((longestFirst words).map .word)), [], 0, fold⟩ t j =
        ((longestFirst words).find? fun w => StandsAt fold t w j).map fun w =>
          ⟨⟨j, j + w.length⟩, []⟩ :=
    fun j hj => matchIn?_words _ hj fun w => decide_eq_true_iff
  have hmem : ∀ w, w ∈ longestFirst words ↔ w ∈ words := fun w => mem_sortBy _ w words
  rw [find?_eq_some_iff]
  constructor
  · rintro ⟨i, hi, hhere, hbefore⟩
    rw [hmatch i hi] at hhere
    obtain ⟨w, hw, rfl⟩ := Option.map_eq_some_iff.mp hhere
    have hstands : StandsAt fold t w i := by simpa using List.find?_some hw
    refine ⟨i, w, ⟨(hmem w).mp (List.mem_of_find?_eq_some hw), hstands, fun v hv j hstands => ?_,
      fun v hv hstands => ?_⟩, rfl⟩
    · by_contra hj
      have hnone := hbefore j (by omega)
      rw [hmatch j hstands.le_length, Option.map_eq_none_iff] at hnone
      exact absurd (decide_eq_true hstands) (List.find?_eq_none.mp hnone v ((hmem v).mpr hv))
    · exact length_le_of_find?_sortBy hw hv (decide_eq_true hstands)
  · rintro ⟨i, w, h, rfl⟩
    refine ⟨i, h.stands.le_length, ?_, fun j hj => ?_⟩
    · rw [hmatch i h.stands.le_length]
      cases hfind : (longestFirst words).find? fun w => StandsAt fold t w i with
      | none =>
        exact absurd (decide_eq_true h.stands)
          (List.find?_eq_none.mp hfind w ((hmem w).mpr h.mem))
      | some v =>
        -- Another word of the same length may be found, over the same characters.
        have hv : StandsAt fold t v i := by simpa using List.find?_some hfind
        have hlength : v.length = w.length :=
          le_antisymm (h.longest v ((hmem v).mp (List.mem_of_find?_eq_some hfind)) hv)
            (length_le_of_find?_sortBy hfind h.mem (decide_eq_true h.stands))
        rw [Option.map_some, hlength]
    · have hlt := Nat.lt_of_lt_of_le hj h.stands.le_length
      rw [hmatch j hlt.le, Option.map_eq_none_iff]
      refine List.find?_eq_none.mpr fun v hv hstands => ?_
      have := h.leftmost v ((hmem v).mp hv) j (of_decide_eq_true hstands)
      omega

end

/-- Case told apart, a word stands where it stands letter by letter. -/
lemma StandsAt.take_eq {t w : Text} {i : Nat} (h : StandsAt false t w i) :
    (t.drop i).take w.length = w := by
  have hoccurs := h.occurs
  simp only [sameChar, Bool.false_eq_true, if_false, beq_iff_eq, List.forall₂_eq_eq_eq] at hoccurs
  exact hoccurs.symm

/-- **A pattern for words finds whole words.** Some words, of any characters, have a pattern, which
is the one that is written with the words escaped. It occurs in a text if one of the words stands
alone at some position. It finds exactly the longest of the words that stand alone at the leftmost
such position, and no group; case told apart, what it finds is that word letter by letter. Neither
the order nor repetitions of the words make a difference.

**Proof sketch.** What is written is read as the pattern (`read_writtenWords`). What is found is
told by the words that there are and where they stand (`find?_words_eq_some_iff`), so that the same
words in another list find the same. -/
theorem find?_ofWords [CharacterNames] (fold : Bool) {words : List Text} (hwords : words ≠ []) :
    ∃ p, ofWords fold words = some p ∧ read fold (writtenWords words) = .ok p ∧
      ∀ t,
        (p.occursIn t = true ↔ ∃ w ∈ words, ∃ i, StandsAt fold t w i) ∧
        (∀ found, p.find? t = some found ↔
          ∃ i w, IsFirstLongest fold words t i w ∧ found = ⟨⟨i, i + w.length⟩, []⟩) ∧
        (fold = false → ∀ i w, IsFirstLongest fold words t i w →
          Span.slice ⟨i, i + w.length⟩ t = w) ∧
        ∀ others q, (∀ w, w ∈ others ↔ w ∈ words) → ofWords fold others = some q →
          q.find? t = p.find? t := by
  obtain ⟨p, hp, hread⟩ := read_writtenWords fold hwords
  refine ⟨p, hp, hread, fun t => ⟨?_, fun found => find?_words_eq_some_iff hp, ?_, ?_⟩⟩
  · have hoccurs := any_occursIn_ofWords fold words t
    simpa only [hp, Option.any_some, stands_iff_exists] using hoccurs
  · rintro rfl i w h
    rw [Span.slice, Nat.add_sub_cancel_left]
    exact h.stands.take_eq
  · intro others q hsame hq
    refine Option.ext fun found => ?_
    rw [find?_words_eq_some_iff hq, find?_words_eq_some_iff hp]
    have hfirst : ∀ i w,
        IsFirstLongest fold others t i w ↔ IsFirstLongest fold words t i w := by
      intro i w
      constructor
      · exact fun h => ⟨(hsame w).mp h.mem, h.stands,
          fun v hv => h.leftmost v ((hsame v).mpr hv), fun v hv => h.longest v ((hsame v).mpr hv)⟩
      · exact fun h => ⟨(hsame w).mpr h.mem, h.stands,
          fun v hv => h.leftmost v ((hsame v).mp hv), fun v hv => h.longest v ((hsame v).mp hv)⟩
    simp only [hfirst]

/-- A word that ends in a parenthesis is given up for a shorter one where a letter follows, and what
stands inside another word is passed over. -/
theorem find?_ofWords_of_parentheses :
    let _ : CharacterNames := .ofTable []
    (["pub", "pub(crate)"] : List Text) ≠ [] ∧
      ∃ p, ofWords false ["pub", "pub(crate)"] = some p ∧
        read false "(?<![\\w$])(?:pub\\(crate\\)|pub)(?![\\w$])" = .ok p ∧
        p.find? "xpub pub(crate)x" = some ⟨⟨5, 8⟩, []⟩ ∧
        IsFirstLongest false ["pub", "pub(crate)"] "xpub pub(crate)x" 5 "pub" := by
  intro names
  have hwords : (["pub", "pub(crate)"] : List Text) ≠ [] := by decide
  obtain ⟨p, hp, hread, hfind⟩ := find?_ofWords false hwords
  have hwritten : writtenWords ["pub", "pub(crate)"] =
      "(?<![\\w$])(?:pub\\(crate\\)|pub)(?![\\w$])" := by decide +kernel
  have hfound : p.find? "xpub pub(crate)x" = some ⟨⟨5, 8⟩, []⟩ := by
    rw [eq_of_ofWords hp]
    decide +kernel
  refine ⟨hwords, p, hp, hwritten ▸ hread, hfound, ?_⟩
  obtain ⟨i, w, hfirst, hspan⟩ := ((hfind _).2.1 _).mp hfound
  obtain ⟨rfl, hstop⟩ : 5 = i ∧ 8 = i + w.length := by simpa using hspan
  have hw : w = "pub" ∨ w = "pub(crate)" := by simpa using hfirst.mem
  rcases hw with rfl | rfl
  · exact hfirst
  · exact absurd hstop (by decide)

end DeclIndex.Pattern
