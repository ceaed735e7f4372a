import DeclIndex.Comment
import DeclIndex.Proofs.Text.Letter
import DeclIndex.Text.Lines
import Mathlib

/-!
# Texts up to the case of ASCII letters

Two texts that differ at most in the case of ASCII letters are two texts with the same lower case in
the sense of ASCII. Whether a character is white space, a word character, a line break or a letter
does not depend on that case, and neither does its lower case in the sense of Unicode. So cutting
into lines, trimming and stripping markers commute with ASCII lower case.

## Main definitions

* `Text.asciiLower` — a text with the capital letters of ASCII made small.
* `Text.isCaseless` — a text without letters of ASCII.

## Main results

* `Text.apply_toLower` — what is the same for the 26 pairs of letters is the same for every
  character.
* `Text.lower_asciiLower`, `Text.asciiLower_lower` — the lower case of a text does not depend on the
  case of ASCII letters, and has no capitals among them.
* `Text.splitLines_asciiLower`, `Comment.above_asciiLower` — lines and comments commute with ASCII
  lower case.
-/

namespace DeclIndex

namespace Text

/-- The text with the capital letters of ASCII made small. -/
def asciiLower (t : Text) : Text :=
  t.map Char.toLower

/-- Whether a text has no letters of ASCII. -/
def isCaseless (t : Text) : Bool :=
  t.all fun c => !c.isAlpha

/-! ## Characters -/

/-- A character is small already, or it is one of the 26 capital letters. -/
private lemma toLower_eq_or (c : Char) :
    c.toLower = c ∨ ∃ n < 26, c = Char.ofNat (0x41 + n) ∧ c.toLower = Char.ofNat (0x61 + n) := by
  by_cases hc : c.isUpper
  · right
    have hbounds := isUpper_iff.mp hc
    have hofNat : c = Char.ofNat (0x41 + (c.toNat - 0x41)) := by
      rw [Nat.add_sub_cancel' hbounds.1, Char.ofNat_toNat]
    have hpairs : ∀ n < 26, (Char.ofNat (0x41 + n)).toLower = Char.ofNat (0x61 + n) := by decide
    have hlt : c.toNat - 0x41 < 26 := by omega
    refine ⟨c.toNat - 0x41, hlt, hofNat, ?_⟩
    rw [← hpairs _ hlt, ← hofNat]
  · left
    exact Char.toLower_eq_of_not_isUpper hc

/-- **What is the same for the 26 pairs of letters** is the same for every character and its small
form. -/
lemma apply_toLower {β : Type} {f : Char → β}
    (h : ∀ n < 26, f (Char.ofNat (0x61 + n)) = f (Char.ofNat (0x41 + n))) (c : Char) :
    f c.toLower = f c := by
  rcases toLower_eq_or c with hc | ⟨n, hn, hc, hlower⟩
  · rw [hc]
  · rw [hlower, hc, h n hn]

/-- White space has no case. -/
lemma isBlank_toLower (c : Char) : isBlank c.toLower = isBlank c :=
  apply_toLower (by decide) c

/-- Both forms of a letter are word characters. -/
lemma isWord_toLower (c : Char) : isWord c.toLower = isWord c :=
  apply_toLower (by decide) c

/-- Digits have no case. -/
lemma isDigit_toLower (c : Char) : isDigit c.toLower = isDigit c :=
  apply_toLower (by decide) c

/-- Line breaks have no case. -/
lemma isBreak_toLower (c : Char) : isBreak c.toLower = isBreak c :=
  apply_toLower (by decide) c

/-- Both forms of a letter are letters. -/
lemma isAsciiLetter_toLower (c : Char) : isAsciiLetter c.toLower = isAsciiLetter c :=
  apply_toLower (by decide) c

/-- The lower case of a character does not depend on its case. -/
lemma lowerChar_toLower (c : Char) : lowerChar c.toLower = lowerChar c :=
  apply_toLower (by decide) c

/-- Both forms of a letter have case. -/
lemma isCased_toLower (c : Char) : isCased c.toLower = isCased c :=
  apply_toLower (by decide) c

/-- No letter of ASCII is passed over in search of the neighbour of a sigma. -/
lemma isCaseIgnorable_toLower (c : Char) : isCaseIgnorable c.toLower = isCaseIgnorable c :=
  apply_toLower (by decide) c

/-- A character that is no letter is told from a letter in either form. -/
lemma beq_toLower {c : Char} (hc : c.isAlpha = false) (d : Char) : (c == d.toLower) = (c == d) := by
  have hne : ∀ n < 26, (Char.ofNat (0x61 + n)).isAlpha = true ∧
      (Char.ofNat (0x41 + n)).isAlpha = true := by decide
  have hpair : ∀ n < 26, (c == Char.ofNat (0x61 + n)) = (c == Char.ofNat (0x41 + n)) := by
    intro n hn
    have hsmall : c ≠ Char.ofNat (0x61 + n) := by
      rintro rfl
      exact absurd hc (by rw [(hne n hn).1]; decide)
    have hcapital : c ≠ Char.ofNat (0x41 + n) := by
      rintro rfl
      exact absurd hc (by rw [(hne n hn).2]; decide)
    rw [beq_false_of_ne hsmall, beq_false_of_ne hcapital]
  exact apply_toLower hpair d

/-! ## Texts -/

@[simp]
lemma asciiLower_nil : asciiLower [] = [] := rfl

@[simp]
lemma asciiLower_cons (c : Char) (t : Text) : asciiLower (c :: t) = c.toLower :: asciiLower t := rfl

@[simp]
lemma length_asciiLower (t : Text) : (asciiLower t).length = t.length := List.length_map _

@[simp]
lemma asciiLower_append (t u : Text) : asciiLower (t ++ u) = asciiLower t ++ asciiLower u :=
  List.map_append

@[simp]
lemma asciiLower_reverse (t : Text) : asciiLower t.reverse = (asciiLower t).reverse :=
  List.map_reverse

lemma asciiLower_take (n : Nat) (t : Text) : asciiLower (t.take n) = (asciiLower t).take n :=
  List.map_take

lemma asciiLower_drop (n : Nat) (t : Text) : asciiLower (t.drop n) = (asciiLower t).drop n :=
  List.map_drop

@[simp]
lemma isEmpty_asciiLower (t : Text) : (asciiLower t).isEmpty = t.isEmpty := by
  cases t <;> rfl

/-- The first character of a text, seen by a test that case makes no difference to. -/
lemma any_head?_asciiLower {f : Char → Bool} (hf : ∀ c, f c.toLower = f c) (t : Text) :
    (asciiLower t).head?.any f = t.head?.any f := by
  cases t with
  | nil => rfl
  | cons c t => exact hf c

/-- A run of characters at the start of a text, by a test that case makes no difference to. -/
lemma takeWhile_asciiLower {f : Char → Bool} (hf : ∀ c, f c.toLower = f c) (t : Text) :
    (asciiLower t).takeWhile f = asciiLower (t.takeWhile f) := by
  have hcomp : f ∘ Char.toLower = f := funext hf
  rw [asciiLower, List.takeWhile_map, hcomp]
  rfl

/-- What follows a run of characters at the start of a text. -/
lemma dropWhile_asciiLower {f : Char → Bool} (hf : ∀ c, f c.toLower = f c) (t : Text) :
    (asciiLower t).dropWhile f = asciiLower (t.dropWhile f) := by
  have hcomp : f ∘ Char.toLower = f := funext hf
  rw [asciiLower, List.dropWhile_map, hcomp]
  rfl

lemma trimStart_asciiLower (t : Text) : trimStart (asciiLower t) = asciiLower (trimStart t) :=
  dropWhile_asciiLower isBlank_toLower t

lemma trimEnd_asciiLower (t : Text) : trimEnd (asciiLower t) = asciiLower (trimEnd t) := by
  rw [trimEnd, trimEnd, ← asciiLower_reverse, dropWhile_asciiLower isBlank_toLower,
    asciiLower_reverse]

/-- White space at the ends has no case. -/
lemma trim_asciiLower (t : Text) : trim (asciiLower t) = asciiLower (trim t) := by
  rw [trim, trim, trimStart_asciiLower, trimEnd_asciiLower]

/-- A text is indented in either case. -/
lemma isIndented_asciiLower (t : Text) : isIndented (asciiLower t) = isIndented t :=
  any_head?_asciiLower isBlank_toLower t

/-- A text without letters begins a text in either case. -/
lemma startsWith_asciiLower {m : Text} (hm : m.isCaseless = true) :
    ∀ t : Text, (asciiLower t).startsWith m = t.startsWith m := by
  induction m with
  | nil => intro t; cases t <;> rfl
  | cons c m ih =>
    obtain ⟨hc, hm⟩ := Bool.and_eq_true_iff.mp hm
    rintro (_ | ⟨d, t⟩)
    · rfl
    · have hhead := beq_toLower (by simpa using hc) d
      have htail := ih hm t
      simp only [startsWith, asciiLower_cons, List.isPrefixOf] at htail ⊢
      rw [hhead, htail]

/-- A text without letters ends a text in either case. -/
lemma endsWith_asciiLower {m : Text} (hm : m.isCaseless = true) (t : Text) :
    (asciiLower t).endsWith m = t.endsWith m := by
  have hreverse : isCaseless m.reverse = true := by simpa [isCaseless] using hm
  have hstart := startsWith_asciiLower hreverse t.reverse
  rwa [asciiLower_reverse] at hstart

/-- Texts one after the other, with a separator without letters. -/
lemma joinWith_asciiLower {separator : Text} (h : asciiLower separator = separator)
    (parts : List Text) :
    joinWith separator (parts.map asciiLower) = asciiLower (joinWith separator parts) := by
  unfold joinWith List.intercalate
  induction parts with
  | nil => rfl
  | cons part parts ih =>
    cases parts with
    | nil => simp
    | cons next parts => simpa [List.intersperse_cons_cons, h] using ih

/-! ## Lower case -/

/-- **The lower case of a text does not depend on the case of ASCII letters**: each character has
the same lower case, and the neighbours of a sigma are told apart by whether they have case. -/
lemma lower_asciiLower (t : Text) : lower (asciiLower t) = lower t := by
  have hafter : ∀ (t passed : Text), lowerAfter (asciiLower passed) (asciiLower t) =
      lowerAfter passed t := by
    intro t
    induction t with
    | nil => intro passed; rfl
    | cons c t ih =>
      intro passed
      have hends : endsWord (asciiLower passed) (asciiLower t) = endsWord passed t := by
        simp only [endsWord, dropWhile_asciiLower isCaseIgnorable_toLower,
          any_head?_asciiLower isCased_toLower]
      have hsigma : (c.toLower = 'Σ') = (c = 'Σ') :=
        apply_toLower (f := fun c => c = 'Σ') (by decide) c
      have hdotted : (c.toLower = 'İ') = (c = 'İ') :=
        apply_toLower (f := fun c => c = 'İ') (by decide) c
      have htail := ih (c :: passed)
      rw [asciiLower_cons] at htail
      simp only [asciiLower_cons, lowerAfter, hends, hsigma, hdotted, lowerChar_toLower, htail]
  exact hafter t []

/-- A character beyond the capital letters of ASCII is small already. -/
lemma toLower_of_lt {c : Char} (hc : 0x5A < c.toNat) : c.toLower = c := by
  rcases toLower_eq_or c with h | ⟨n, hn, h, _⟩
  · exact h
  · have hvalid : (0x41 + n).isValidChar := Or.inl (by omega)
    rw [h, Char.toNat_ofNat, if_pos hvalid] at hc
    omega

/-- The lower case of a character is no capital letter of ASCII. -/
private lemma toLower_lowerChar (c : Char) : (lowerChar c).toLower = lowerChar c := by
  rcases lowerChar_cases c with ⟨_, h⟩ | ⟨hc, h⟩ | ⟨r, hr, hc, h⟩
  · rw [h]
    exact Char.toLower_toLower_eq_toLower c
  · rw [h]
    exact toLower_of_lt (by omega)
  · have hrow := (rows_to_chars r hr).1.1
    rw [h]
    apply toLower_of_lt
    rw [toNat_ofNat_of_row hr hc]
    omega

/-- The lower case of a text has no capital letters of ASCII. -/
lemma asciiLower_lower (t : Text) : asciiLower (lower t) = lower t := by
  have hafter : ∀ (t passed : Text), asciiLower (lowerAfter passed t) = lowerAfter passed t := by
    intro t
    induction t with
    | nil => intro passed; rfl
    | cons c t ih =>
      intro passed
      rw [lowerAfter, asciiLower_append, ih]
      congr 1
      split
      · split <;> decide
      · split
        · decide
        · simp only [asciiLower_cons, asciiLower_nil, toLower_lowerChar]
  exact hafter t []

/-! ## Lines -/

/-- A line break of two characters is one in either case. -/
private lemma toLower_eq_iff {c : Char} (hc : c.isAlpha = false) (d : Char) :
    d.toLower = c ↔ d = c := by
  have hbeq := beq_toLower hc d
  rw [Bool.eq_iff_iff, beq_iff_eq, beq_iff_eq] at hbeq
  exact ⟨fun h => (hbeq.mp h.symm).symm, fun h => (hbeq.mpr h.symm).symm⟩

/-- The first line of some lines. -/
private lemma consFirst_map (c : Char) (lines : List Text) :
    consFirst c.toLower (lines.map asciiLower) = (consFirst c lines).map asciiLower := by
  cases lines <;> rfl

/-- Two characters are a line break of two characters in either case. -/
private lemma asciiLower_ne_pair {c : Char} {rest : Text}
    (hpair : ∀ after, c = '\r' → rest = '\n' :: after → False) :
    ∀ after, c.toLower = '\r' → asciiLower rest = '\n' :: after → False := by
  intro after hc hrest
  cases rest with
  | nil => exact absurd hrest (by simp)
  | cons d rest =>
    have hd : d.toLower = '\n' := (List.cons.inj hrest).1
    rw [toLower_eq_iff (by decide)] at hc hd
    exact hpair rest hc (by rw [hd])

/-- **Lines commute with ASCII lower case**: no letter is a line break. -/
lemma splitLines_asciiLower (t : Text) :
    splitLines (asciiLower t) = (splitLines t).map asciiLower := by
  induction t using splitLines.induct with
  | case1 => rfl
  | case2 rest ih =>
    have hlower : asciiLower ('\r' :: '\n' :: rest) = '\r' :: '\n' :: asciiLower rest := by
      rw [asciiLower_cons, asciiLower_cons, show ('\r' : Char).toLower = '\r' by decide,
        show ('\n' : Char).toLower = '\n' by decide]
    rw [hlower, splitLines, splitLines, ih]
    rfl
  | case3 c rest hpair hbreak ih =>
    rw [asciiLower_cons, splitLines.eq_3 c rest hpair,
      splitLines.eq_3 _ _ (asciiLower_ne_pair hpair), isBreak_toLower, if_pos hbreak, if_pos hbreak,
      ih]
    rfl
  | case4 c rest hpair hbreak ih =>
    rw [asciiLower_cons, splitLines.eq_3 c rest hpair,
      splitLines.eq_3 _ _ (asciiLower_ne_pair hpair), isBreak_toLower, if_neg hbreak, if_neg hbreak,
      ih, consFirst_map]

end Text

/-! ## Comments -/

namespace Comment

open Text

variable {markers : List Text}

/-- A line is a comment in either case if the markers have no letters. -/
lemma isComment_asciiLower (h : ∀ m ∈ markers, m.isCaseless = true) (line : Text) :
    isComment markers (asciiLower line) = isComment markers line := by
  unfold isComment
  rw [Bool.eq_iff_iff, List.any_eq_true, List.any_eq_true]
  constructor
  · rintro ⟨m, hm, hline⟩
    exact ⟨m, hm, by rwa [startsWith_asciiLower (h m hm)] at hline⟩
  · rintro ⟨m, hm, hline⟩
    exact ⟨m, hm, by rwa [startsWith_asciiLower (h m hm)]⟩

/-- A search among markers that asks the same of each finds the same. -/
private lemma find?_longestFirst_congr {f g : Text → Bool} (h : ∀ m ∈ markers, f m = g m) :
    (longestFirst markers).find? f = (longestFirst markers).find? g :=
  List.find?_congr fun m hm => h m ((mem_sortBy _ _ _).mp hm)

/-- The marker that a line begins with. -/
lemma opening?_asciiLower (h : ∀ m ∈ markers, m.isCaseless = true) (line : Text) :
    opening? markers (asciiLower line) = opening? markers line :=
  find?_longestFirst_congr fun m hm => startsWith_asciiLower (h m hm) line

/-- The marker that a line ends with. -/
lemma ending?_asciiLower (h : ∀ m ∈ markers, m.isCaseless = true) (line : Text) :
    ending? markers (asciiLower line) = ending? markers line :=
  find?_longestFirst_congr fun m hm => endsWith_asciiLower (h m hm) line

/-- Markers are stripped from the start of a line in either case. -/
lemma stripStart_asciiLower (h : ∀ m ∈ markers, m.isCaseless = true) (n : Nat) :
    ∀ line : Text, stripStart markers n (asciiLower line) =
      asciiLower (stripStart markers n line) := by
  induction n with
  | zero => intro line; rfl
  | succ n ih =>
    intro line
    rw [stripStart, stripStart, isEmpty_asciiLower, opening?_asciiLower h]
    split
    · rfl
    · cases opening? markers line with
      | none => rfl
      | some m =>
        dsimp only
        rw [← asciiLower_drop, trimStart_asciiLower, ih]

/-- Markers are stripped from the end of a line in either case. -/
lemma stripEnd_asciiLower (h : ∀ m ∈ markers, m.isCaseless = true) (n : Nat) :
    ∀ line : Text, stripEnd markers n (asciiLower line) =
      asciiLower (stripEnd markers n line) := by
  induction n with
  | zero => intro line; rfl
  | succ n ih =>
    intro line
    rw [stripEnd, stripEnd, isEmpty_asciiLower, ending?_asciiLower h]
    split
    · rfl
    · cases ending? markers line with
      | none => rfl
      | some m =>
        dsimp only
        rw [length_asciiLower, ← asciiLower_take, trimEnd_asciiLower, ih]

/-- A comment line without its markers. -/
lemma strip_asciiLower (h : ∀ m ∈ markers, m.isCaseless = true) (line : Text) :
    strip markers (asciiLower line) = asciiLower (strip markers line) := by
  simp only [strip, trim_asciiLower, length_asciiLower, stripStart_asciiLower h,
    stripEnd_asciiLower h]

/-- The text of a comment line. -/
lemma textOf_asciiLower (h : ∀ m ∈ markers, m.isCaseless = true) (line : Text) :
    textOf markers (asciiLower line) = (textOf markers line).map asciiLower := by
  unfold textOf
  dsimp only
  rw [strip_asciiLower h, isEmpty_asciiLower]
  split <;> rfl

/-- The comment lines above a declaration. -/
lemma linesAbove_asciiLower (h : ∀ m ∈ markers, m.isCaseless = true) (lines : List Text) :
    ∀ depth, linesAbove markers depth (lines.map asciiLower) =
      (linesAbove markers depth lines).map asciiLower := by
  induction lines with
  | nil => intro depth; cases depth <;> rfl
  | cons line lines ih =>
    intro depth
    cases depth with
    | zero => rfl
    | succ depth =>
      rw [List.map_cons, linesAbove, linesAbove]
      rw [trim_asciiLower, isEmpty_asciiLower, isComment_asciiLower h, ih, ih, textOf_asciiLower h]
      split
      · rfl
      · split
        · rw [List.map_append]
        · rfl

/-- **Comments commute with ASCII lower case** if the markers have no letters. -/
lemma above_asciiLower (h : ∀ m ∈ markers, m.isCaseless = true) (depth : Nat)
    (lines : List Text) :
    above markers depth (lines.map asciiLower) = asciiLower (above markers depth lines) := by
  rw [above, above, linesAbove_asciiLower h, joinWith_asciiLower (by decide)]

end Comment

end DeclIndex
