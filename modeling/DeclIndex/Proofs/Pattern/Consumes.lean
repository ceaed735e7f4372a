import DeclIndex.Proofs.Pattern.Ends

/-!
# Pieces of a line

The rules of a language are written as pieces one after the other, and so is a line whose shape is
known. `Expr.Consumes` says that a piece of a pattern takes a piece of the line when a given text
follows, on the way that is tried first and wherever it stands. Of the text that follows only the
beginning matters, which tells a loop where to end.

## Main definitions

* `Pattern.Expr.Consumes` — a piece of a pattern takes a piece of a line.
* `Pattern.Expr.StuckAt` — a piece of a pattern leads nowhere at a text.
* `Pattern.spaced` — words with a space after each.
* `Pattern.Expr.takesWords` — a loop whose rounds take the words of a line.

## Main results

* `Pattern.Expr.consumes_oneOf` — one of several words.
* `Pattern.Expr.consumes_many_spaced` — a loop over words.
* `Pattern.Expr.rest_of_rounds` — what rounds over words leave of a line.
* `Pattern.Expr.stuckAt_spaced` — a loop over words after which nothing leads on.
-/

namespace DeclIndex.Pattern

/-- Words with a space after each. -/
def spaced (words : List Text) : Text :=
  words.flatMap fun w => w ++ [' ']

lemma spaced_cons (w : Text) (words : List Text) : spaced (w :: words) = w ++ ' ' :: spaced words := by
  simp [spaced]

lemma spaced_append (words more : List Text) :
    spaced (words ++ more) = spaced words ++ spaced more :=
  List.flatMap_append

namespace Expr

/-- With `after` behind it, the way of the expression that is tried first takes the text `w`,
wherever it stands. -/
def Consumes (e : Expr) (fold : Bool) (w after : Text) : Prop :=
  ∀ (before : Text) (groups : List (Nat × Span)),
    e.First fold (.between before (w ++ after) groups) (.between (before ++ w) after groups)

/-- At a text the expression leads nowhere. -/
def StuckAt (e : Expr) (fold : Bool) (text : Text) : Prop :=
  ∀ (before : Text) (groups : List (Nat × Span)), e.IsStuck fold (.between before text groups)

variable {p : Expr} {parts : List Expr} {fold : Bool} {w v after : Text}

/-! ## Dead ends -/

/-- A state at the text. -/
lemma StuckAt.isStuck {s : State} (h : p.StuckAt fold s.rest) : p.IsStuck fold s := by
  have hstuck := h s.passed.reverse s.groups
  rwa [State.between, List.reverse_reverse] at hstuck

/-- An expression that can take no number of characters in a known beginning. -/
lemma stuckAt_of_ends {b : Beginning} (h : p.ends fold b = some []) (hb : b.Fits after) :
    p.StuckAt fold after :=
  fun _ _ => isStuck_of_ends h hb

/-- The same for a text of which the first characters are known. -/
lemma stuckAt_of_ends_ofText (h : p.ends fold (.ofText v) = some []) (after : Text) :
    p.StuckAt fold (v ++ after) :=
  stuckAt_of_ends h (Beginning.fits_ofText v after)

/-- An expression that takes a known number of characters, after which nothing leads on. -/
lemma stuckAt_cat_of_ends {q : Expr} {b : Beginning} {n : Nat} (h : p.ends fold b = some [n])
    (hb : b.Fits after) (hq : q.StuckAt fold (after.drop n)) : (Expr.cat p q).StuckAt fold after := by
  intro before groups
  refine isStuck_cat fun t ht => ?_
  obtain ⟨m, hm, _, hrest⟩ := p.mem_ends fold h hb ht
  rw [List.mem_singleton.mp hm, State.rest_between] at hrest
  exact StuckAt.isStuck (hrest ▸ hq)

/-- A character that another one stands in the place of. -/
lemma stuckAt_char {c : Char} (h : after.head?.any (sameChar fold c) = false) :
    (Expr.char c).StuckAt fold after :=
  fun _ _ => isStuck_char h

/-- A class that the next character does not belong to. -/
lemma stuckAt_set {inverted : Bool} {members : List Member}
    (h : after.head?.any (accepts fold inverted members) = false) :
    (Expr.set inverted members).StuckAt fold after :=
  fun _ _ => isStuck_set h

/-- The first of several parts leads nowhere. -/
lemma StuckAt.seq (h : p.StuckAt fold after) (parts : List Expr) :
    (Expr.seq (p :: parts)).StuckAt fold after :=
  fun before groups => (h before groups).seq parts

/-- Both alternatives lead nowhere. -/
lemma StuckAt.alt {q : Expr} (hp : p.StuckAt fold after) (hq : q.StuckAt fold after) :
    (Expr.alt p q).StuckAt fold after :=
  fun before groups => (hp before groups).alt (hq before groups)

/-- A group around a dead end. -/
lemma StuckAt.group (h : p.StuckAt fold after) (i : Nat) : (Expr.group i p).StuckAt fold after :=
  fun before groups => (h before groups).group i

/-- A loop of which one round is required. -/
lemma StuckAt.some1 (h : p.StuckAt fold after) : (Expr.some1 p).StuckAt fold after :=
  fun before groups => (h before groups).some1

/-! ## Pieces -/

/-- Nothing. -/
lemma consumes_empty : Expr.empty.Consumes fold [] after := by
  intro before groups
  rw [List.append_nil]
  exact first_empty

/-- One piece after the other. -/
lemma Consumes.seq (hp : p.Consumes fold w (v ++ after))
    (hparts : (Expr.seq parts).Consumes fold v after) :
    (Expr.seq (p :: parts)).Consumes fold (w ++ v) after := by
  intro before groups
  have hfirst := hp before groups
  have hrest := hparts (before ++ w) groups
  rw [List.append_assoc] at hrest
  rw [List.append_assoc]
  exact hfirst.seq hrest

/-- The last piece. -/
lemma Consumes.seq_one (hp : p.Consumes fold w after) : (Expr.seq [p]).Consumes fold w after := hp

/-- A piece that takes nothing, and those after it. -/
lemma Consumes.seq_nil (hp : p.Consumes fold [] (v ++ after))
    (hparts : (Expr.seq parts).Consumes fold v after) :
    (Expr.seq (p :: parts)).Consumes fold v after :=
  hp.seq hparts

/-- A piece, and those after it, which take nothing. -/
lemma Consumes.seq_stay (hp : p.Consumes fold w after)
    (hparts : (Expr.seq parts).Consumes fold [] after) :
    (Expr.seq (p :: parts)).Consumes fold w after := by
  have hseq : (Expr.seq (p :: parts)).Consumes fold (w ++ []) after := Consumes.seq hp hparts
  rwa [List.append_nil] at hseq

/-- The first of two alternatives. -/
lemma Consumes.alt_left (hp : p.Consumes fold w after) (q : Expr) :
    (Expr.alt p q).Consumes fold w after :=
  fun before groups => (hp before groups).alt_left q

/-- The second of two alternatives. -/
lemma Consumes.alt_right {q : Expr} (hq : q.Consumes fold w after)
    (hp : p.StuckAt fold (w ++ after)) : (Expr.alt p q).Consumes fold w after :=
  fun before groups => (hq before groups).alt_right (hp before groups)

/-- The characters of a text. -/
lemma consumes_word (w after : Text) : (word w).Consumes fold w after :=
  fun before groups => first_word w before after groups

/-- One character of a class. -/
lemma consumes_set {inverted : Bool} {members : List Member} {c : Char}
    (h : accepts fold inverted members c = true) (after : Text) :
    (Expr.set inverted members).Consumes fold [c] after :=
  fun before groups => first_set h before after groups

/-- A piece that may be left out and is there. -/
lemma Consumes.opt (h : (Expr.seq parts).Consumes fold w after) :
    (Expr.opt parts).Consumes fold w after :=
  fun before groups => (h before groups).opt

/-- A piece that may be left out and is not there. -/
lemma StuckAt.opt (h : (Expr.seq parts).StuckAt fold after) :
    (Expr.opt parts).Consumes fold [] after := by
  intro before groups
  rw [List.append_nil]
  exact first_opt_of_isStuck (h before groups)

/-- A loop of which no round is there. -/
lemma StuckAt.many (h : p.StuckAt fold after) : (many p).Consumes fold [] after := by
  intro before groups
  rw [List.append_nil]
  exact first_many_of_isStuck (h before groups)

/-- As many characters of a class as there are. -/
lemma consumes_many_set {inverted : Bool} {members : List Member}
    (hw : ∀ c ∈ w, accepts fold inverted members c = true)
    (hafter : after.head?.any (accepts fold inverted members) = false) :
    (many (Expr.set inverted members)).Consumes fold w after :=
  fun before _ => first_many_set hw hafter before

/-- As many characters of a class as there are, at least one of them. -/
lemma consumes_some1_set {inverted : Bool} {members : List Member}
    (hw : ∀ c ∈ w, accepts fold inverted members c = true) (hne : w ≠ [])
    (hafter : after.head?.any (accepts fold inverted members) = false) :
    (some1 (Expr.set inverted members)).Consumes fold w after :=
  fun before _ => first_some1_set hw hne hafter before

/-! ## White space -/

@[simp]
lemma accepts_blank : accepts fold false [.kind .blank false] = Text.isBlank := by
  funext c
  simp [accepts, Member.lists, CharKind.holds]

/-- One space. -/
lemma consumes_gap (h : after.head?.any Text.isBlank = false) : gap.Consumes fold [' '] after := by
  refine consumes_some1_set (fun c hc => ?_) (by simp) (by rwa [accepts_blank])
  rw [List.mem_singleton.mp hc, accepts_blank]
  rfl

/-- One space, where there may be none. -/
lemma consumes_gap0_space (h : after.head?.any Text.isBlank = false) :
    gap0.Consumes fold [' '] after := by
  refine consumes_many_set (fun c hc => ?_) (by rwa [accepts_blank])
  rw [List.mem_singleton.mp hc, accepts_blank]
  rfl

/-- No white space. -/
lemma consumes_gap0 (h : after.head?.any Text.isBlank = false) : gap0.Consumes fold [] after :=
  StuckAt.many (stuckAt_set (by rwa [accepts_blank]))

/-! ## Words -/

/-- Whether none of some words can be taken for another, if a space follows. -/
def tellsApart (fold : Bool) (words : List Text) : Bool :=
  words.all fun v => words.all fun w => v = w || (word v).ends fold (.ofText (w ++ [' '])) = some []

/-- A word is not taken for another. -/
lemma stuckAt_word_of_tellsApart {words : List Text} (h : tellsApart fold words = true)
    (hv : v ∈ words) (hw : w ∈ words) (hne : v ≠ w) (after : Text) :
    (word v).StuckAt fold (w ++ ' ' :: after) := by
  have hends := List.all_eq_true.mp (List.all_eq_true.mp h v hv) w hw
  rw [decide_eq_false hne, Bool.false_or, decide_eq_true_eq] at hends
  have hstuck := stuckAt_of_ends_ofText hends after
  rwa [List.append_assoc] at hstuck

/-- **One of several words**, with a space after it. -/
lemma consumes_oneOf {words : List Text} (h : tellsApart fold words = true) (hw : w ∈ words)
    (after : Text) : (oneOf (words.map word)).Consumes fold w (' ' :: after) := by
  suffices hsome : ∀ vs : List Text, (∀ v ∈ vs, v ∈ words) → w ∈ vs →
      (oneOf (vs.map word)).Consumes fold w (' ' :: after) from hsome words (fun _ => id) hw
  intro vs hvs hmem
  induction vs with
  | nil => exact absurd hmem List.not_mem_nil
  | cons v vs ih =>
    by_cases heq : v = w
    · subst heq
      cases vs with
      | nil => exact consumes_word v _
      | cons u vs => exact (consumes_word v _).alt_left _
    · have hmem' : w ∈ vs := (List.mem_cons.mp hmem).resolve_left (Ne.symm heq)
      have hrest := ih (fun u hu => hvs u (List.mem_cons_of_mem _ hu)) hmem'
      cases vs with
      | nil => exact absurd hmem' List.not_mem_nil
      | cons u vs =>
        refine hrest.alt_right ?_
        exact stuckAt_word_of_tellsApart h (hvs v List.mem_cons_self) hw heq after

/-! ## Loops over words -/

/-- A text that begins with a word begins with the first character of the word. -/
lemma head?_append_of_any {test : Char → Bool} (h : w.head?.any test = true) (after : Text) :
    (w ++ after).head?.any test = true := by
  cases w with
  | nil => simp at h
  | cons c w => exact h

/-- Words with a space after each, and one more text, begin like one of these. -/
lemma head?_spaced_append {words : List Text} {test : Char → Bool}
    (h : ∀ w ∈ words, w.head?.any test = true) (hafter : after.head?.any test = true) :
    (spaced words ++ after).head?.any test = true := by
  cases words with
  | nil => exact hafter
  | cons w words =>
    rw [spaced_cons, List.append_assoc]
    exact head?_append_of_any (h w List.mem_cons_self) _

/-- The rounds of a loop over words, each of which takes a word and the space after it. -/
lemma iterates_spaced {words : List Text} {round : Expr} {test : Char → Bool}
    {groups : List (Nat × Span)}
    (hround : ∀ w ∈ words, ∀ after : Text, after.head?.any test = true →
      round.Consumes fold (w ++ [' ']) after)
    (htest : ∀ w ∈ words, w.head?.any test = true) (hafter : after.head?.any test = true)
    (before : Text) : Iterates (round.Advances fold) words.length
      (.between before (spaced words ++ after) groups)
      (.between (before ++ spaced words) after groups) := by
  induction words generalizing before with
  | nil => rw [spaced, List.flatMap_nil, List.append_nil]; rfl
  | cons w words ih =>
    have htest' : ∀ u ∈ words, u.head?.any test = true :=
      fun u hu => htest u (List.mem_cons_of_mem _ hu)
    have hfirst := hround w List.mem_cons_self _ (head?_spaced_append htest' hafter) before groups
    have hrest := ih (fun u hu => hround u (List.mem_cons_of_mem _ hu)) htest'
      (before ++ (w ++ [' ']))
    have htext : spaced (w :: words) = w ++ [' '] ++ spaced words := rfl
    rw [htext, ← List.append_assoc before, List.append_assoc _ (spaced words)]
    refine ⟨_, ⟨hfirst, ?_, ?_⟩, hrest⟩
    · simp
    · simp only [State.rest_between, List.length_append, List.length_singleton]
      omega

/-- **A loop over words**: each round takes a word and the space after it, and no round leads on
from what follows them. -/
lemma consumes_many_spaced {words : List Text} {round : Expr} {test : Char → Bool}
    (hround : ∀ w ∈ words, ∀ after : Text, after.head?.any test = true →
      round.Consumes fold (w ++ [' ']) after)
    (htest : ∀ w ∈ words, w.head?.any test = true) (hafter : after.head?.any test = true)
    (hstuck : round.StuckAt fold after) : (many round).Consumes fold (spaced words) after :=
  fun before groups => first_many (iterates_spaced hround htest hafter before) (hstuck _ groups)

/-- The small letters of ASCII. -/
def small : Text :=
  "abcdefghijklmnopqrstuvwxyz"

/-- What is known of a line that begins with a word and a space. -/
def beginsWith (w : Text) : Beginning :=
  .ofText (w ++ [' '])

/-- A line that begins with a word and a space. -/
lemma fits_beginsWith (w rest : Text) : (beginsWith w).Fits (w ++ ' ' :: rest) := by
  have hfits := Beginning.fits_ofText (w ++ [' ']) rest
  rwa [List.append_assoc] at hfits

/-- Whether the rounds of a loop take the words of a line, all with small initials and a space after
each, the last of which is `last`: a round takes a whole word and its space or nothing, and no round
takes the last word. -/
def takesWords (round : Expr) (fold : Bool) (words : List Text) (last : Text) : Bool :=
  (last :: words).all (fun w => w.head?.any (· ∈ small)) &&
  words.all (fun w =>
    (round.ends fold (beginsWith w ++ [small])).any fun ns => ns.all (· = w.length + 1)) &&
  round.ends fold (beginsWith last) = some []

/-- Whether a loop and what comes after it lead nowhere in a line of words, all with small initials
and a space after each, the last of which is `last`: a round takes a whole word and its space or
nothing, no round takes the last word, and at none of the words leads on what comes after the
loop. -/
def missesWords (round tail : Expr) (fold : Bool) (words : List Text) (last : Text) : Bool :=
  (last :: words).all (fun w => w.head?.any (· ∈ small) && tail.ends fold (beginsWith w) = some []) &&
  words.all (fun w =>
    (round.ends fold (beginsWith w ++ [small])).any fun ns => ns.all (· = w.length + 1)) &&
  round.ends fold (beginsWith last) = some []

section Misses

variable {round tail : Expr} {words : List Text} {last : Text}

/-- The rounds of a loop that leads nowhere take the words. -/
private lemma takesWords_of_missesWords (h : missesWords round tail fold words last = true) :
    takesWords round fold words last = true := by
  simp only [missesWords, takesWords, Bool.and_eq_true, List.all_eq_true] at h ⊢
  exact ⟨⟨fun w hw => (h.1.1 w hw).1, h.1.2⟩, h.2⟩

/-- A round of such a loop takes the first word of the line. -/
private lemma exists_rest_of_round (h : takesWords round fold words last = true)
    {ms : List Text} (hms : ∀ m ∈ ms, m ∈ words) {s t : State}
    (hs : s.rest = spaced ms ++ (last ++ ' ' :: after)) (hst : round.Takes fold s t) :
    ∃ m ms', ms = m :: ms' ∧ t.rest = spaced ms' ++ (last ++ ' ' :: after) := by
  simp only [takesWords, Bool.and_eq_true, List.all_eq_true, decide_eq_true_eq] at h
  obtain ⟨⟨hsmall, hround⟩, hlast⟩ := h
  cases ms with
  | nil =>
    have hfits : (beginsWith last).Fits s.rest := by
      rw [hs]
      exact fits_beginsWith last after
    exact absurd hst (isStuck_of_ends hlast hfits t)
  | cons m ms =>
    refine ⟨m, ms, rfl, ?_⟩
    have hm := hms m List.mem_cons_self
    have hms' : ∀ u ∈ ms, u.head?.any (· ∈ small) = true := fun u hu =>
      hsmall u (List.mem_cons_of_mem _ (hms u (List.mem_cons_of_mem _ hu)))
    have hnext : (spaced ms ++ (last ++ ' ' :: after)).head?.any (· ∈ small) = true :=
      head?_spaced_append hms' (head?_append_of_any (hsmall last List.mem_cons_self) _)
    obtain ⟨c, rest, hrest, hc⟩ : ∃ c rest, spaced ms ++ (last ++ ' ' :: after) = c :: rest ∧
        c ∈ small := by
      cases hcons : spaced ms ++ (last ++ ' ' :: after) with
      | nil => rw [hcons] at hnext; simp at hnext
      | cons c rest =>
        rw [hcons] at hnext
        exact ⟨c, rest, rfl, of_decide_eq_true hnext⟩
    have htext : s.rest = (m ++ [' ']) ++ c :: rest := by
      rw [hs, spaced_cons, ← hrest]
      simp
    have hfits : Beginning.Fits (beginsWith m ++ [small]) s.rest := by
      rw [htext, beginsWith]
      exact Beginning.fits_ofText_append hc _ _
    cases hns : round.ends fold (beginsWith m ++ [small]) with
    | none => simpa [hns] using hround m hm
    | some ns =>
      obtain ⟨n, hn, _, ht⟩ := round.mem_ends fold hns hfits hst
      have hlength : n = m.length + 1 := by
        have hall := hround m hm
        rw [hns, Option.any_some, List.all_eq_true] at hall
        exact of_decide_eq_true (hall n hn)
      rw [ht, htext, hlength, hrest]
      exact List.drop_left' (by simp)

/-- **The rounds of such a loop take the first words of the line**, one each. -/
lemma rest_of_rounds (h : takesWords round fold words last = true) {n : Nat} :
    ∀ {ms : List Text} {s t : State}, (∀ m ∈ ms, m ∈ words) →
      s.rest = spaced ms ++ (last ++ ' ' :: after) → Iterates (round.Takes fold) n s t →
      t.rest = spaced (ms.drop n) ++ (last ++ ' ' :: after) := by
  induction n with
  | zero =>
    rintro ms s t _ hs rfl
    exact hs
  | succ n ih =>
    rintro ms s u hms hs ⟨t, hst, htu⟩
    obtain ⟨m, ms', rfl, ht⟩ := exists_rest_of_round h hms hs hst
    exact ih (fun v hv => hms v (List.mem_cons_of_mem _ hv)) ht htu

/-- **A loop over words after which nothing leads on** at any end of the line of words.

**Proof sketch.** After any number of rounds an end of the line of words is left. What comes after
the loop leads nowhere there. -/
theorem stuckAt_spaced_of_drop (h : takesWords round fold words last = true) (most : Option Nat)
    (reluctant : Bool) {ms : List Text} (hms : ∀ m ∈ ms, m ∈ words)
    (htail : ∀ n, tail.StuckAt fold (spaced (ms.drop n) ++ (last ++ ' ' :: after))) :
    (Expr.cat (.loop 0 most reluctant round) tail).StuckAt fold
      (spaced ms ++ (last ++ ' ' :: after)) := by
  intro before groups
  refine isStuck_cat fun t ht => ?_
  obtain ⟨n, _, _, hiter⟩ := ht
  exact StuckAt.isStuck (rest_of_rounds h hms rfl hiter ▸ htail n)

/-- What begins with a word of a line leads nowhere if it does so at each of them. -/
lemma stuckAt_of_words (h : ∀ w ∈ last :: words, tail.ends fold (beginsWith w) = some [])
    {ms : List Text} (hms : ∀ m ∈ ms, m ∈ words) (after : Text) :
    tail.StuckAt fold (spaced ms ++ (last ++ ' ' :: after)) := by
  cases ms with
  | nil => exact stuckAt_of_ends (h last List.mem_cons_self) (fits_beginsWith last after)
  | cons m ms =>
    rw [spaced_cons, List.append_assoc]
    exact stuckAt_of_ends (h m (List.mem_cons_of_mem _ (hms m List.mem_cons_self)))
      (fits_beginsWith m _)

/-- **A loop over words after which nothing leads on** at any of the words. -/
theorem stuckAt_spaced (h : missesWords round tail fold words last = true) (most : Option Nat)
    (reluctant : Bool) {ms : List Text} (hms : ∀ m ∈ ms, m ∈ words) (after : Text) :
    (Expr.cat (.loop 0 most reluctant round) tail).StuckAt fold
      (spaced ms ++ (last ++ ' ' :: after)) := by
  refine stuckAt_spaced_of_drop (takesWords_of_missesWords h) most reluctant hms fun n => ?_
  simp only [missesWords, Bool.and_eq_true, List.all_eq_true, decide_eq_true_eq] at h
  exact stuckAt_of_words (fun w hw => (h.1.1 w hw).2) (fun m hm => hms m (List.mem_of_mem_drop hm))
    after

end Misses

end Expr

/-- An anchored pattern that leads nowhere from the start of a text is not found in it. -/
lemma find?_eq_none_of_stuckAt {p : Pattern} {parts : List Expr}
    (hbody : p.body = .seq (Expr.start :: parts)) {text : Text}
    (h : (Expr.seq parts).StuckAt p.fold text) : p.find? text = none := by
  have hanchored : p.body.isAnchored = true := by
    rw [hbody]
    cases parts <;> rfl
  refine find?_eq_none_of_isAnchored hanchored fun t ht => ?_
  rw [hbody] at ht
  cases parts with
  | nil => exact h [] [] _ rfl
  | cons q parts =>
    obtain ⟨s, ⟨_, rfl⟩, hrest⟩ := ht
    exact h [] [] t hrest

end DeclIndex.Pattern
