import DeclIndex.Language.Ruby
import DeclIndex.Proofs.Pattern.Avoids
import DeclIndex.Proofs.Pattern.WholeWord
import DeclIndex.Proofs.Profile.Header
import Mathlib.Data.List.Find

/-!
# Pieces that languages share

What the shared expressions of the language tables take from a line: identifiers, words that may be
left out, words in any number and order. And when a gate for whole words lets a header in.

## Main definitions

* `Language.AfterName` — what may follow a name.
* `Language.perhaps` — a word with a space after it, or nothing.

## Main results

* `Language.consumes_ident`, `Language.consumes_optWord`, `Language.consumes_modifiers` — the shared
  expressions.
* `Rule.applies_iff_stands` — a gate for words lets a line in if one of them stands alone in it,
  `Rule.applies_of_keyword` if this is the introducing word of a header.
* `Rule.applies_of_consumes` — an anchored gate lets a line in if its pieces take those at its start.
-/

namespace DeclIndex

open Pattern Pattern.Expr

namespace Language

variable {fold : Bool} {name after : Text}

/-! ## Identifiers -/

/-- The letters of ASCII are letters, also up to case. -/
lemma accepts_letters (fold : Bool) {c : Char} (hc : Text.isAsciiLetter c = true) :
    accepts fold false letters c = true := by
  have hall : ∀ fold, Text.asciiLetters.all (accepts fold false letters) = true := by
    decide
  exact List.all_eq_true.mp (hall fold) c (Text.mem_asciiLetters hc)

@[simp]
lemma accepts_wordChar : accepts fold false [.kind .word false] = Text.isWord := by
  funext c
  simp [accepts, Member.lists, CharKind.holds]

/-- Case told apart, a word character or one of some further characters. -/
lemma accepts_wordOr (extra : Text) :
    accepts false false (.kind .word false :: extra.map .char) =
      fun c => Text.isWord c || decide (c ∈ extra) := by
  funext c
  have hextra : ((extra.map Member.char).any fun m => m.lists false c) = decide (c ∈ extra) := by
    induction extra with
    | nil => rfl
    | cons d extra ih =>
      rw [List.map_cons, List.any_cons, ih]
      by_cases hd : c = d
      · simp [Member.lists, hd]
      · simp [Member.lists, hd, Ne.symm hd]
  rw [accepts, List.any_cons, hextra]
  simp [Member.lists, CharKind.holds]

/-- No word character is among characters that are none. -/
lemma accepts_among_of_isWord {chars : Text} (hchars : chars.all (fun d => !Text.isWord d) = true)
    {c : Char} (hc : Text.isWord c = true) : accepts false false (chars.map .char) c = false := by
  rw [accepts, Bool.bne_false, List.any_map, List.any_eq_false]
  intro d hd heq
  have hdc : d = c := beq_iff_eq.mp heq
  have hnot := List.all_eq_true.mp hchars d hd
  rw [hdc, hc] at hnot
  simp at hnot

/-- An identifier. -/
lemma consumes_ident (hname : name.isName [] = true)
    (hafter : after.head?.any Text.isWord = false) : ident.Consumes fold name after := by
  obtain ⟨c, rest, rfl, hc, hrest⟩ := Text.exists_cons_of_isName hname
  have hc := accepts_letters fold (hc.resolve_right List.not_mem_nil)
  refine (consumes_set hc (rest ++ after)).seq (consumes_many_set (fun d hd => ?_) ?_)
  · rw [accepts_wordChar]
    exact (hrest d hd).resolve_right List.not_mem_nil
  · rwa [accepts_wordChar]

/-- An identifier in which dollar signs are letters. -/
lemma consumes_scriptIdent (hname : name.isName ['$'] = true)
    (hafter : after.head?.any (fun c => Text.isWord c || decide (c ∈ ['$'])) = false) :
    scriptIdent.Consumes false name after := by
  obtain ⟨c, rest, rfl, hc, hrest⟩ := Text.exists_cons_of_isName hname
  have hfirst : accepts false false (letters ++ [.char '$']) c = true := by
    have hall : ('$' :: Text.asciiLetters).all (accepts false false (letters ++ [.char '$'])) =
        true := by decide
    refine List.all_eq_true.mp hall c (List.mem_cons.mpr ?_)
    exact (hc.imp_left Text.mem_asciiLetters).symm.imp_left List.mem_singleton.mp
  have hwordOr : accepts false false (.kind .word false :: "$".toList.map .char) =
      fun c => Text.isWord c || decide (c ∈ ['$']) := accepts_wordOr ['$']
  refine (consumes_set hfirst (rest ++ after)).seq (consumes_many_set (fun d hd => ?_) ?_)
  · rw [hwordOr]
    simpa using hrest d hd
  · rwa [hwordOr]

/-- A name begins with none of the characters that no name begins with. -/
lemma head?_name {extra : Text} {test : Char → Bool}
    (htest : (Text.asciiLetters ++ extra).all (fun c => !test c) = true)
    (hname : name.isName extra = true) (after : Text) :
    (name ++ after).head?.any test = false := by
  obtain ⟨c, rest, rfl, hc, _⟩ := Text.exists_cons_of_isName hname
  have hmem : c ∈ Text.asciiLetters ++ extra :=
    List.mem_append.mpr (hc.imp_left Text.mem_asciiLetters)
  simpa using List.all_eq_true.mp htest c hmem

/-- What may follow a name without being taken for a part of it: nothing, white space or an opening
parenthesis. -/
def AfterName (rest : Text) : Prop :=
  ∀ c ∈ rest.head?, Text.isBlank c = true ∨ c = '('

/-- A test that fails for white space and an opening parenthesis fails after a name. -/
lemma AfterName.eq_false {test : Char → Bool} (h : AfterName after)
    (htest : ('(' :: Text.blanks).all (fun c => !test c) = true) :
    after.head?.any test = false := by
  cases after with
  | nil => rfl
  | cons c after =>
    have hmem : c ∈ '(' :: Text.blanks :=
      List.mem_cons.mpr ((h c rfl).symm.imp_right Text.mem_blanks)
    simpa using List.all_eq_true.mp htest c hmem

/-- A name does not go on in what follows it. -/
lemma AfterName.isWord_head? (h : AfterName after) : after.head?.any Text.isWord = false := by
  cases after with
  | nil => rfl
  | cons c after =>
    rw [List.head?_cons, Option.any_some, Bool.eq_false_iff]
    intro hword
    rcases h c rfl with hblank | rfl
    · rw [Text.isBlank_of_isWord hword] at hblank
      exact absurd hblank (by decide)
    · exact absurd hword (by decide)

/-- What white space and an opening parenthesis have in common the character after a name has. -/
lemma AfterName.eq_true {test : Char → Bool} (h : AfterName after)
    (htest : ('(' :: Text.blanks).all test = true) : ∀ c ∈ after.head?, test c = true :=
  fun c hc => List.all_eq_true.mp htest c
    (List.mem_cons.mpr ((h c hc).symm.imp_right Text.mem_blanks))

/-- A name is read up to what follows it, also where it may end with a mark. -/
lemma consumes_rubyMethodName (hname : name.isName [] = true) (hafter : AfterName after) :
    rubyMethodName.Consumes false name after := by
  obtain ⟨c, cs, rfl, hc, hcs⟩ := Text.exists_cons_of_isName hname
  have hc := accepts_letters false (hc.resolve_right List.not_mem_nil)
  have hmark : (Expr.seq [Expr.among "?!="]).StuckAt false after :=
    stuckAt_set (hafter.eq_false (by decide))
  refine (consumes_set hc (cs ++ after)).seq
    ((consumes_many_set (fun d hd => ?_) ?_).seq_stay hmark.opt.seq_one)
  · rw [accepts_wordChar]
    exact (hcs d hd).resolve_right List.not_mem_nil
  · rw [accepts_wordChar]
    exact hafter.isWord_head?

/-- Where no receiver is written none is read, since no dot stands in the name or after it. -/
lemma consumes_receiver (owner : Expr)
    (howner : ('(' :: Text.blanks).all (fun c => (receiver owner).avoids c false) = true)
    (hname : name.isName [] = true) (hafter : AfterName after) :
    (opt [receiver owner, "."]).Consumes false [] (name ++ after) := by
  have hdot : ∀ c ∈ name, sameChar false '.' c = false := fun c hc =>
    sameChar_false_of_isWord (by decide)
      ((Text.isWord_of_mem_of_isName hname hc).resolve_right List.not_mem_nil)
  have hstuck : (Expr.seq [receiver owner, "."]).StuckAt false (name ++ after) := by
    refine stuckAt_cat_of_avoids (hafter.eq_true howner) fun v hv => stuckAt_char ?_
    exact head?_suffix_append hv hdot (hafter.eq_false (by decide))
  exact hstuck.opt

/-! ## Words before a declaration -/

/-- A word with a space after it, or nothing. -/
def perhaps (there : Bool) (w : Text) : Text :=
  if there then w ++ [' '] else []

/-- A word that may stand before a declaration. -/
lemma consumes_optWord (there : Bool) {w : Text} (hafter : after.head?.any Text.isBlank = false)
    (hstuck : (word w).StuckAt fold after) :
    (optWord (word w)).Consumes fold (perhaps there w) after := by
  cases there with
  | true => exact ((consumes_word w _).seq (consumes_gap hafter).seq_one).opt
  | false => exact (hstuck.seq [gap]).opt

/-- A line opens with a word before a space. -/
lemma opensWith_word {P : Text → Prop} {w : Text} (hw : w.isName [] = true) (hP : P w)
    (hafter : after.head?.any Text.isWord = false) : Profile.OpensWith P (w ++ after) :=
  ⟨w, after, rfl, hw, hafter, hP⟩

/-- A line opens with the word characters that it begins with. -/
lemma opensWith_takeWhile {P : Text → Prop} {w : Text}
    (hw : Text.isName (w.takeWhile Text.isWord) [] = true) (hP : P (w.takeWhile Text.isWord))
    (hafter : after.head?.any Text.isWord = false) : Profile.OpensWith P (w ++ after) := by
  refine ⟨w.takeWhile Text.isWord, w.dropWhile Text.isWord ++ after, ?_, hw, ?_, hP⟩
  · rw [← List.append_assoc, List.takeWhile_append_dropWhile]
  · cases hrest : w.dropWhile Text.isWord with
    | nil => exact hafter
    | cons c rest =>
      have hnot := List.head?_dropWhile_not Text.isWord w
      rw [hrest, List.head?_cons] at hnot
      simpa using hnot

/-- A line opens with a word that may be left out, or like what follows it. -/
lemma opensWith_perhaps {P : Text → Prop} (there : Bool) {w : Text} (hw : w.isName [] = true)
    (hP : P w) (hafter : Profile.OpensWith P after) :
    Profile.OpensWith P (perhaps there w ++ after) := by
  cases there with
  | true =>
    rw [perhaps, if_pos rfl, List.append_assoc]
    exact opensWith_word hw hP rfl
  | false => exact hafter

/-- A line opens with the first of some words, or like what follows them. -/
lemma opensWith_spaced {P : Text → Prop} {ms : List Text} (hms : ∀ m ∈ ms, m.isName [] = true)
    (hP : ∀ m ∈ ms, P m) (hafter : Profile.OpensWith P after) :
    Profile.OpensWith P (spaced ms ++ after) := by
  cases ms with
  | nil => exact hafter
  | cons m ms =>
    rw [spaced_cons, List.append_assoc]
    exact opensWith_word (hms m List.mem_cons_self) (hP m List.mem_cons_self) rfl

/-- A text that begins with something else than white space does not begin with it. -/
lemma head?_not_of_head? {test : Char → Bool} {t : Text}
    (h : t.head?.any (fun c => !test c) = true) : t.head?.any test = false := by
  cases t with
  | nil => rfl
  | cons c t => simpa using h

/-- Words before a declaration. -/
lemma consumes_modifiers {words ms : List Text} (hwords : tellsApart fold words = true)
    (hsmall : ∀ w ∈ words, w.head?.any (fun c => !Text.isBlank c) = true)
    (hms : ∀ m ∈ ms, m ∈ words) (hafter : after.head?.any (fun c => !Text.isBlank c) = true)
    (hstuck : (oneOf (words.map word)).StuckAt fold after) :
    (modifiers (words.map word)).Consumes fold (spaced ms) after := by
  refine consumes_many_spaced (fun w hw rest hrest => ?_) (fun m hm => hsmall m (hms m hm)) hafter
    (hstuck.seq [gap])
  exact (consumes_oneOf hwords (hms w hw) rest).seq
    (consumes_gap (head?_not_of_head? hrest)).seq_one

/-- A line of words begins with one of them or with what follows them. -/
lemma exists_first_of_spaced {words ms : List Text} (hms : ∀ m ∈ ms, m ∈ words)
    (last after : Text) : ∃ w ∈ last :: words, ∃ rest, spaced ms ++ (last ++ after) =
      w ++ rest := by
  cases ms with
  | nil => exact ⟨last, List.mem_cons_self, after, rfl⟩
  | cons m ms =>
    refine ⟨m, List.mem_cons_of_mem _ (hms m List.mem_cons_self),
      ' ' :: (spaced ms ++ (last ++ after)), ?_⟩
    rw [spaced_cons, List.append_assoc]
    rfl

/-- Words with a space after each end with a space. -/
lemma getLast?_spaced {test : Char → Bool} (htest : test ' ' = false) (ms : List Text) :
    (spaced ms).getLast?.any test = false := by
  induction ms with
  | nil => rfl
  | cons m ms ih => rw [spaced_cons, any_getLast?_append_cons test htest, ih]

/-- A name is a word throughout. -/
lemma isNeighbour_of_isName {t : Text} (ht : t.isName [] = true) :
    ∀ c ∈ t, isNeighbour false c = true := by
  intro c hc
  rw [isNeighbour_false, (Text.isWord_of_mem_of_isName ht hc).resolve_right List.not_mem_nil]
  rfl

/-- The words of a line of words and of what follows them. -/
lemma stands_spaced_append_iff {w : Text} (hw : w.isName [] = true) (ms : List Text) (text : Text) :
    Stands false w (spaced ms ++ text) ↔ (∃ m ∈ ms, Stands false w m) ∨ Stands false w text := by
  have hne : w ≠ [] := by
    obtain ⟨c, rest, rfl, _⟩ := Text.exists_cons_of_isName hw
    exact List.cons_ne_nil c rest
  induction ms with
  | nil => simp [spaced]
  | cons m ms ih =>
    have hsplit : Stands false w (spaced (m :: ms) ++ text) ↔
        Stands false w m ∨ Stands false w (spaced ms ++ text) := by
      rw [spaced_cons, List.append_assoc]
      exact stands_append_separator_iff hne (isNeighbour_of_isName hw) (by decide) m
    rw [hsplit, List.exists_mem_cons_iff, or_assoc]
    exact or_congr_right ih

/-- The words that stand alone in words with a space after each are these words, if none of them
holds another word. -/
lemma stands_spaced_iff {w : Text} (hw : w.isName [] = true) {ms : List Text}
    (hms : ∀ m ∈ ms, Stands false w m ↔ w = m) : Stands false w (spaced ms) ↔ w ∈ ms := by
  have hnil : ¬Stands false w [] := by
    obtain ⟨c, rest, rfl, _⟩ := Text.exists_cons_of_isName hw
    exact not_stands_nil (List.cons_ne_nil c rest)
  have hiff := stands_spaced_append_iff hw ms []
  rw [List.append_nil] at hiff
  rw [hiff, or_iff_left hnil]
  constructor
  · rintro ⟨m, hm, hstands⟩
    rwa [(hms m hm).mp hstands]
  · exact fun hmem => ⟨w, hmem, (hms w hmem).mpr rfl⟩

end Language

/-- A word before a declaration says who may use it if it is one of the words there. -/
lemma Profile.saysVisibility_spaced {p : Profile} (hfold : p.fold = false) {w : Text × Visibility}
    (hw : w.1.isName [] = true) {ms : List Text} (hms : ∀ m ∈ ms, Stands false w.1 m ↔ w.1 = m) :
    p.saysVisibility (spaced ms) w = decide (w.1 ∈ ms) := by
  rw [Bool.eq_iff_iff, decide_eq_true_iff, ← Language.stands_spaced_iff hw hms, saysVisibility,
    hfold, any_occursIn_ofWords]
  simp

/-- Of the words that say who may use a declaration the first counts that is among the words before
it, and without any the default. -/
lemma Profile.visibility_of_find? {p : Profile} (hfold : p.fold = false)
    (hrule : p.nameRule = none) (hwords : ∀ w ∈ p.visibilityWords, w.1.isName [] = true)
    {ms : List Text} (hms : ∀ w ∈ p.visibilityWords, ∀ m ∈ ms, Stands false w.1 m ↔ w.1 = m)
    (name : Text) :
    p.visibility name (spaced ms) =
      ((p.visibilityWords.find? fun w => decide (w.1 ∈ ms)).map (·.2)).getD p.defaultVisibility := by
  have hfinds : p.visibilityWords.find? (p.saysVisibility (spaced ms)) =
      p.visibilityWords.find? fun w => decide (w.1 ∈ ms) :=
    List.find?_congr fun w hw => saysVisibility_spaced hfold (hwords w hw) (hms w hw)
  cases hfind : p.visibilityWords.find? fun w => decide (w.1 ∈ ms) with
  | none =>
    refine visibility_of_no_word (hfinds.trans hfind) fun rule h => ?_
    rw [hrule] at h
    nomatch h
  | some w => exact visibility_of_word (hfinds.trans hfind)

/-- The first of the words that say who may use a declaration, and those after it. -/
lemma Profile.find?_cons_getD (w : Text × Visibility) (words : List (Text × Visibility))
    (ms : List Text) (default : Visibility) :
    (((w :: words).find? fun w => decide (w.1 ∈ ms)).map (·.2)).getD default =
      if w.1 ∈ ms then w.2
      else ((words.find? fun w => decide (w.1 ∈ ms)).map (·.2)).getD default := by
  rw [List.find?_cons]
  by_cases h : w.1 ∈ ms
  · rw [decide_eq_true h, if_pos h]
    rfl
  · rw [decide_eq_false h, if_neg h]

/-- Among words before a declaration `private` counts before `protected`, and without either the
default counts. -/
lemma Profile.visibility_spaced {p : Profile} (hfold : p.fold = false)
    (hwords : p.visibilityWords =
      [(("private" : Text), Visibility.priv), (("protected" : Text), Visibility.prot)])
    (hrule : p.nameRule = none) {ms : List Text} (hms : ∀ m ∈ ms, m.isName [] = true) (name : Text) :
    p.visibility name (spaced ms) =
      if ("private" : Text) ∈ ms then .priv else if ("protected" : Text) ∈ ms then .prot
      else p.defaultVisibility := by
  have hnames : ∀ w ∈ p.visibilityWords, w.1.isName [] = true := by
    rw [hwords]
    decide
  rw [visibility_of_find? hfold hrule hnames fun w _ m hm =>
    stands_iff_eq (Language.isNeighbour_of_isName (hms m hm)), hwords, find?_cons_getD, find?_cons_getD]
  rfl

/-- Where case is told apart a name with a capital initial opens no statement. -/
lemma Profile.isControlWord_capital {p : Profile} (hfold : p.fold = false)
    (hwords : ∀ w ∈ p.controlWords, w.head?.any (· ∈ small) = true) (name : Text.CapitalName) :
    p.isControlWord name.text = false := by
  rw [isControlWord, spelling, hfold, if_neg (by simp), Bool.eq_false_iff, ne_eq, List.contains_iff_mem]
  intro hmem
  have hcapitals : Text.capitals.all (fun c => !decide (c ∈ small)) = true := by decide
  have hcapital := name.head?_any hcapitals []
  rw [List.append_nil, hwords name.text hmem] at hcapital
  exact absurd hcapital (by decide)

/-! ## Gates -/

namespace Rule

variable {r : Rule} {w after : Text}

/-- A gate for words lets a line in if one of them stands alone in it. -/
lemma applies_iff_stands {words : List Text} (hgate : r.gate = ofWords r.pattern.fold words)
    (hwords : words ≠ []) (line : Text) :
    r.applies line = true ↔ ∃ w ∈ words, Stands r.pattern.fold w line := by
  rw [← any_occursIn_ofWords, applies, hgate, ofWords, if_neg (by simpa using hwords)]
  rfl

/-- A rule with a gate for words leaves a line to those after it if none of them stands alone
there. -/
lemma passes_of_not_stands {words : List Text} (hgate : r.gate = ofWords r.pattern.fold words)
    (hwords : words ≠ []) {line : Text} (h : ∀ w ∈ words, ¬Stands r.pattern.fold w line) :
    r.Passes line := by
  refine Or.inl (Bool.eq_false_iff.mpr fun happlies => ?_)
  obtain ⟨w, hw, hstands⟩ := (applies_iff_stands hgate hwords line).mp happlies
  exact h w hw hstands

/-- A rule with a gate that leads nowhere from any place of a line leaves it to those after it. -/
lemma passes_of_isStuck {gate : Pattern} (hgate : r.gate = some gate) {line : Text}
    (h : ∀ before after, line = before ++ after →
      gate.body.IsStuck gate.fold (.between before after [])) : r.Passes line := by
  have hnone : gate.find? line = none := by
    rw [Option.eq_none_iff_forall_ne_some]
    intro found hfound
    obtain ⟨before, after, t, hline, ht, _⟩ := exists_takes_of_find? hfound
    exact h before after hline t ht
  refine Or.inl ?_
  rw [applies, hgate, Option.all_some, occursIn, hnone]
  rfl

/-- An anchored gate lets a line in if its pieces take those at the start of the line. -/
lemma applies_of_consumes {gate : Pattern} (hgate : r.gate = some gate) {parts : List Expr}
    (hbody : gate.body = seq (start :: parts))
    (h : (Expr.seq parts).Consumes gate.fold w after) : r.applies (w ++ after) = true := by
  have hfirst := (first_start (w ++ after) []).seq (h [] [])
  rw [← hbody] at hfirst
  rw [applies, hgate, Option.all_some, occursIn, find?_of_first hfirst]
  rfl

/-- A gate lets a line in if its run succeeds somewhere in the line. -/
lemma applies_of_isSome_run {gate : Pattern} (hgate : r.gate = some gate) {before after : Text}
    (h : (gate.body.run gate.fold some (.between before after [])).isSome = true) :
    r.applies (before ++ after) = true := by
  rw [applies, hgate, Option.all_some, occursIn, find?, isSome_findFrom?]
  refine ⟨before, after, rfl, ?_⟩
  rw [List.append_nil, matchAt?, Option.isSome_map]
  exact h

/-- An anchored gate that begins with a loop lets a line in if what comes after the loop leads on
after some of its rounds. -/
lemma applies_of_rounds {gate : Pattern} (hgate : r.gate = some gate) {round tail : Expr}
    (hbody : gate.body = .cat start (.cat (many round) tail)) {line : Text} {n : Nat} {t u : State}
    (hrounds : Iterates (round.Advances gate.fold) n (.between [] line []) t)
    (htail : tail.First gate.fold t u) : r.applies line = true := by
  suffices hrun : (gate.body.run gate.fold some (.between [] line [])).isSome = true from
    applies_of_isSome_run hgate hrun
  obtain ⟨s, hs⟩ := Option.isSome_iff_exists.mp
    (isSome_run_many hrounds (Option.isSome_iff_exists.mpr ⟨u, htail some u rfl⟩))
  have hstart : start.First gate.fold (.between [] line []) _ := first_start line []
  rw [hbody]
  exact Option.isSome_iff_exists.mpr ⟨s, hstart _ s hs⟩

end Rule

/-- The introducing word of a header stands alone in the line. -/
lemma Header.stands_keyword (h : Header) {fold : Bool}
    (hbefore : h.before.getLast?.any (isNeighbour fold) = false)
    (hgap : h.gap.head?.any (isNeighbour fold) = false) (hne : h.gap ≠ []) :
    Stands fold h.keyword h.text := by
  refine ⟨h.before, h.keyword, _, rfl, ?_, hbefore, ?_⟩
  · exact List.forall₂_same.mpr fun c _ => sameChar_self fold c
  · obtain ⟨c, gap, hcons⟩ := List.exists_cons_of_ne_nil hne
    rw [hcons] at hgap ⊢
    exact hgap

/-- A gate for words lets a header in if the introducing word is one of them and stands alone. -/
lemma Rule.applies_of_keyword {r : Rule} {words : List Text}
    (hgate : r.gate = ofWords r.pattern.fold words) {h : Header} (hword : h.keyword ∈ words)
    (hbefore : h.before.getLast?.any (isNeighbour r.pattern.fold) = false)
    (hgap : h.gap.head?.any (isNeighbour r.pattern.fold) = false) (hne : h.gap ≠ []) :
    r.applies h.text = true :=
  (applies_iff_stands hgate (List.ne_nil_of_mem hword) h.text).mpr
    ⟨h.keyword, hword, h.stands_keyword hbefore hgap hne⟩

end DeclIndex
