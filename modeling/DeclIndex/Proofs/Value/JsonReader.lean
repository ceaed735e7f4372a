import DeclIndex.Proofs.Assoc
import DeclIndex.Proofs.Value.JsonText

/-!
# Reading JSON

The reader reads every text of JSON as the value that it writes, and leaves what follows, as long as
the value keeps within the limits of the reader. Since every value keeps within some limits, a text
writes one value at most.

## Main definitions

* `Json.Closes` — what can follow a number.
* `Json.Reads` — the reader reads a part, and leaves what follows.

## Main results

* `Json.string?_of_writesText`, `Json.number_append` — texts and numbers are read.
* `Json.reads_of_writes` — every part of a value is read.
* `Json.read_of_isTextOf` — **every text of JSON is read** as the value that it writes.
* `Json.IsTextOf.unique` — a text writes one value at most.
-/

namespace DeclIndex.Json

/-! ## White space -/

/-- White space before a token is skipped. -/
lemma skip_append {s t : Text} (hs : Spaces s) (ht : t.head?.any isSpace = false) :
    skip (s ++ t) = t := by
  rw [skip, List.dropWhile_append_of_pos hs]
  cases t with
  | nil => rfl
  | cons c t => exact List.dropWhile_cons_of_neg (by simpa using ht)

/-- What can follow a number: white space, a comma, a closing bracket or brace, or nothing. -/
def Closes (rest : Text) : Prop :=
  rest.head?.all fun c => isSpace c || c == ',' || c == ']' || c == '}'

/-- White space, and then a sign that can follow a number. -/
lemma closes_append {s rest : Text} (hs : Spaces s) (hrest : Closes rest) : Closes (s ++ rest) := by
  cases s with
  | nil => exact hrest
  | cons c s => simp [Closes, hs c List.mem_cons_self]

/-- What follows a number does not carry it on. -/
lemma Closes.head?_any {rest : Text} (h : Closes rest) (test : Char → Bool)
    (htest : [' ', '\t', '\n', '\r', ',', ']', '\x7d'].all (fun c => !test c) = true) :
    rest.head?.any test = false := by
  cases rest with
  | nil => rfl
  | cons c rest =>
    simp only [Closes, List.head?_cons, Option.all_some, isSpace, Bool.or_eq_true,
      beq_iff_eq] at h
    have hc : c ∈ [' ', '\t', '\n', '\r', ',', ']', '\x7d'] := by
      rcases h with ((((((rfl | rfl) | rfl) | rfl) | rfl) | rfl) | rfl) <;> simp
    simpa using List.all_eq_true.mp htest c hc

/-! ## Texts -/

/-- A fuel that is not used up has a step left. -/
lemma exists_eq_succ_of_lt {n fuel : Nat} (h : n < fuel) : ∃ m, fuel = m + 1 ∧ n ≤ m :=
  ⟨fuel - 1, by omega, by omega⟩

/-- Four hexadecimal digits are read as a code unit. -/
lemma unit?_of_writesUnit {n : Nat} {w : Text} (h : WritesUnit n w) (rest : Text) :
    unit? (w ++ rest) = some (n, rest) := by
  obtain ⟨digits, hmap, hlength, rfl⟩ := h
  have hw : w.length = 4 := by
    have hsame := congrArg List.length hmap
    simpa [hlength] using hsame
  have hdigits : w.filterMap Text.hexValue? = digits := by
    have hid := congrArg (List.filterMap id) hmap
    simpa [List.filterMap_map] using hid
  have htake : (w ++ rest).take 4 = w := List.take_left' hw
  have hdrop : (w ++ rest).drop 4 = rest := List.drop_left' hw
  rw [unit?, htake, hdrop, hdigits]
  exact if_pos hlength

/-- A number that is no first half of a pair stands for a code point by itself. -/
lemma numbered?_of_not_high {n : Nat} {w : Text} (h : WritesUnit n w)
    (hn : ¬(0xD800 ≤ n ∧ n ≤ 0xDBFF)) (rest : Text) :
    numbered? (w ++ rest) = some (.ofUnit n, rest) := by
  have hhigh : (0xD800 ≤ n && n ≤ 0xDBFF) = false := by simpa using hn
  rw [numbered?, unit?_of_writesUnit h]
  dsimp only
  split
  · rw [hhigh]
    rfl
  · rfl

/-- What stands for a character by its number. -/
lemma ofUnit_toNat (c : Char) : CodePoint.ofUnit c.toNat = .char c := by
  have hvalid : c.toNat.isValidChar := c.valid
  simp only [Nat.isValidChar] at hvalid
  rw [CodePoint.ofUnit, if_neg (by omega), Char.ofNat_toNat]

/-- What stands for a surrogate by its number. -/
lemma ofUnit_surrogate (offset : Fin 0x800) :
    CodePoint.ofUnit (0xD800 + offset) = .surrogate offset := by
  rw [CodePoint.ofUnit, if_pos (by omega), Nat.add_sub_cancel_left]
  exact congrArg CodePoint.surrogate (Fin.ofNat_val_eq_self offset)

/-- A character that is written by its number is no half of a pair. -/
lemma numbered?_of_writesUnit {c : Char} {w : Text} (h : WritesUnit c.toNat w) (rest : Text) :
    numbered? (w ++ rest) = some (.char c, rest) := by
  have hc : c.toNat.isValidChar := c.valid
  rw [numbered?_of_not_high h, ofUnit_toNat]
  simp only [Nat.isValidChar] at hc
  omega

/-- The numbers of a pair of surrogates are read together. -/
lemma numbered?_of_pair {high low : Nat} {w w' : Text} (hhigh : 0xD800 ≤ high ∧ high ≤ 0xDBFF)
    (hlow : 0xDC00 ≤ low ∧ low ≤ 0xDFFF) (h : WritesUnit high w) (h' : WritesUnit low w')
    (rest : Text) :
    numbered? (w ++ '\\' :: 'u' :: w' ++ rest) =
      some (.char (Char.ofNat (0x10000 + (high - 0xD800) * 0x400 + (low - 0xDC00))), rest) := by
  have hfirst : (0xD800 ≤ high && high ≤ 0xDBFF) = true := by simpa using hhigh
  have hsecond : (0xDC00 ≤ low && low ≤ 0xDFFF) = true := by simpa using hlow
  rw [List.append_assoc, numbered?, unit?_of_writesUnit h]
  simp only [List.cons_append, hfirst, if_true, unit?_of_writesUnit h', hsecond]

/-- What stands for a code point does not begin with the second half of a pair, unless it stands for
that half. -/
lemma WritesPoint.not_low {p : CodePoint} {w : Text} (h : WritesPoint p w)
    (hp : ∀ offset : Fin 0x800, p = .surrogate offset → offset < 0x400) {more rest after : Text}
    {low : Nat} (hw : w ++ rest = '\\' :: 'u' :: more) (hlow : unit? more = some (low, after)) :
    ¬(0xDC00 ≤ low ∧ low ≤ 0xDFFF) := by
  have hnumber : ∀ {n : Nat} {v rest : Text}, WritesUnit n v → more = v ++ rest → n = low := by
    intro n v rest hv hmore
    rw [hmore, unit?_of_writesUnit hv] at hlow
    exact (Prod.mk.inj (Option.some.inj hlow)).1
  cases h with
  | plain _ _ hescape => exact absurd (List.cons.inj hw).1 hescape
  | @short _ e h =>
    obtain rfl : e = 'u' := (List.cons.inj (List.cons.inj hw).2).1
    cases h
  | @number c _ h =>
    obtain rfl := hnumber h (List.cons.inj (List.cons.inj hw).2).2.symm
    have hc : c.toNat.isValidChar := c.valid
    simp only [Nat.isValidChar] at hc
    omega
  | @pair high low' v v' hhigh _ h =>
    have hmore : more = v ++ ('\\' :: 'u' :: v' ++ rest) := by
      rw [List.append_assoc] at hw
      exact (List.cons.inj (List.cons.inj hw).2).2.symm
    obtain rfl := hnumber h hmore
    omega
  | @surrogate offset _ h =>
    obtain rfl := hnumber h (List.cons.inj (List.cons.inj hw).2).2.symm
    have hoffset := hp offset rfl
    simp only [Fin.lt_def] at hoffset
    omega

/-- A surrogate is read alone if what follows is not the second half of its pair. -/
lemma numbered?_of_surrogate {offset : Fin 0x800} {w : Text} (h : WritesUnit (0xD800 + offset) w)
    {rest : Text} (hrest : offset < 0x400 → ∀ more low after, rest = '\\' :: 'u' :: more →
      unit? more = some (low, after) → ¬(0xDC00 ≤ low ∧ low ≤ 0xDFFF)) :
    numbered? (w ++ rest) = some (.surrogate offset, rest) := by
  rw [← ofUnit_surrogate offset]
  by_cases hhigh : 0xD800 + (offset : Nat) ≤ 0xDBFF
  · have hoffset : offset < 0x400 := by
      rw [Fin.lt_def]
      show (offset : Nat) < 0x400
      omega
    have hbounds :
        (0xD800 ≤ 0xD800 + (offset : Nat) && 0xD800 + (offset : Nat) ≤ 0xDBFF) = true := by
      simpa using hhigh
    rw [numbered?, unit?_of_writesUnit h]
    dsimp only
    split
    · rename_i more
      rw [if_pos hbounds]
      split
      · rename_i low after hlow
        have hnot := hrest hoffset more low after rfl hlow
        rw [if_neg (by simpa using hnot)]
      · rfl
    · rfl
  · exact numbered?_of_not_high h (fun hn => hhigh hn.2) rest

/-- What follows a first half of a pair, if it stands apart from it, is not the second half. -/
lemma WritesText.not_low {t : WideText} {w : Text} (h : WritesText t w) {offset : Fin 0x800}
    (happart : StandsApart (.surrogate offset) t) (hoffset : offset < 0x400) {rest : Text}
    {more after : Text} {low : Nat} (hw : w ++ '"' :: rest = '\\' :: 'u' :: more)
    (hlow : unit? more = some (low, after)) : ¬(0xDC00 ≤ low ∧ low ≤ 0xDFFF) := by
  cases h with
  | nil => cases hw
  | cons h ht _ =>
    rw [List.append_assoc] at hw
    refine h.not_low (fun other hp => ?_) hw hlow
    have hjoins := happart _ rfl
    rw [hp, CodePoint.joins] at hjoins
    simpa [hoffset] using hjoins

/-- What stands for a code point is read as the code point, if what follows stands apart from it. -/
lemma string?_of_writesPoint {p : CodePoint} {t : WideText} {w ws : Text} (h : WritesPoint p w)
    (ht : WritesText t ws) (happart : StandsApart p t) (fuel : Nat) (rest : Text) :
    string? (fuel + 1) (w ++ (ws ++ '"' :: rest)) =
      (string? fuel (ws ++ '"' :: rest)).map fun (t, rest) => (p :: t, rest) := by
  cases h with
  | plain hcontrol hquote hescape =>
    rw [List.singleton_append, string?]
    · exact if_neg (by omega)
    all_goals simp_all
  | @short _ e h =>
    have hu : e ≠ 'u' := by
      rintro rfl
      cases h
    rw [List.cons_append, List.singleton_append, string?, h]
    exact hu
  | number h =>
    rw [List.cons_append, List.cons_append, string?, numbered?_of_writesUnit h]
  | pair hhigh hlow h h' =>
    rw [List.cons_append, List.cons_append, List.cons_append, List.cons_append, string?,
      numbered?_of_pair hhigh hlow h h']
  | surrogate h =>
    rw [List.cons_append, List.cons_append, string?, numbered?_of_surrogate h]
    exact fun hoffset more low after hw hlow => ht.not_low happart hoffset hw hlow

/-- What stands for a code point is not empty. -/
lemma WritesPoint.length_pos {p : CodePoint} {w : Text} (h : WritesPoint p w) : 0 < w.length := by
  cases h <;> simp

/-- **What stands for a text is read**, through the closing quotation mark. -/
lemma string?_of_writesText {t : WideText} {w : Text} (h : WritesText t w) (rest : Text) :
    ∀ {fuel : Nat}, w.length < fuel → string? fuel (w ++ '"' :: rest) = some (t, rest) := by
  induction h with
  | nil =>
    intro fuel hfuel
    obtain ⟨fuel, rfl, -⟩ := exists_eq_succ_of_lt hfuel
    rfl
  | cons h ht happart ih =>
    intro fuel hfuel
    obtain ⟨fuel, rfl, hfuel⟩ := exists_eq_succ_of_lt hfuel
    have hpos := h.length_pos
    rw [List.length_append] at hfuel
    rw [List.append_assoc, string?_of_writesPoint h ht happart, ih (by omega)]
    rfl

/-! ## Numbers -/

/-- Digits are read as far as they go. -/
lemma digits?_of_isDigits {t rest : Text} (h : IsDigits t)
    (hrest : rest.head?.any Char.isDigit = false) : digits? (t ++ rest) = some (t, rest) := by
  have hdigits : (t ++ rest).takeWhile Char.isDigit = t := by
    rw [List.takeWhile_append_of_pos h.2]
    cases rest with
    | nil => simp
    | cons c rest =>
      rw [List.takeWhile_cons_of_neg (by simpa using hrest), List.append_nil]
  have hne : t.isEmpty = false := by simpa using h.1
  rw [digits?, hdigits, hne, List.drop_left]
  rfl

/-- The whole part of a number is read as far as it goes. -/
lemma whole?_of_isWhole {t rest : Text} (h : IsWhole t)
    (hrest : rest.head?.any Char.isDigit = false) : whole? (t ++ rest) = some (t, rest) := by
  rcases h with rfl | ⟨h, hzero⟩
  · rfl
  · obtain ⟨c, t, rfl, -⟩ := h.exists_cons
    have hc : c ≠ '0' := by simpa using hzero
    have hread := digits?_of_isDigits h hrest
    rw [List.cons_append] at hread ⊢
    rw [whole?, hread]
    exact fun _ he => hc (List.cons.inj he).1

/-- A fraction is read as far as it goes. -/
lemma fraction_append {t rest : Text} (h : IsFraction t)
    (hdigit : rest.head?.any Char.isDigit = false)
    (hpoint : rest.head?.any (· == '.') = false) : fraction (t ++ rest) = (t, rest) := by
  rcases h with rfl | ⟨digits, rfl, h⟩
  · cases rest with
    | nil => rfl
    | cons c rest =>
      have hc : c ≠ '.' := by simpa using hpoint
      rw [List.nil_append, fraction]
      exact fun _ he => hc (List.cons.inj he).1
  · rw [List.cons_append, fraction, digits?_of_isDigits h hdigit]

/-- An exponent is read as far as it goes. -/
lemma exponent_append {t rest : Text} (h : IsExponent t)
    (hdigit : rest.head?.any Char.isDigit = false)
    (hexponent : rest.head?.any (fun c => c == 'e' || c == 'E') = false) :
    exponent (t ++ rest) = (t, rest) := by
  rcases h with rfl | ⟨e, sign, digits, rfl, he, hsign, h⟩
  · cases rest with
    | nil => rfl
    | cons c rest =>
      have hc : ¬(c = 'e' || c = 'E') := by simpa using hexponent
      rw [List.nil_append, exponent, if_neg hc]
  · have he' : (e = 'e' || e = 'E') := by simpa using he
    have htaken : ((sign ++ digits ++ rest).take 1).filter (fun s => s == '+' || s == '-') =
        sign := by
      obtain ⟨c, more, rfl, hc⟩ := h.exists_cons
      rcases hsign with rfl | rfl | rfl
      · have hplus : c ≠ '+' := by rintro rfl; cases hc
        have hminus : c ≠ '-' := by rintro rfl; cases hc
        simp [hplus, hminus]
      · rfl
      · rfl
    rw [List.cons_append, List.cons_append, exponent, if_pos he']
    simp only [htaken]
    rw [List.append_assoc, List.drop_left, digits?_of_isDigits h hdigit]
    rfl

/-- What a text begins with after a fraction, or instead of it. -/
lemma IsFraction.head?_any {t rest : Text} (h : IsFraction t) {test : Char → Bool}
    (htest : test '.' = false) (hrest : rest.head?.any test = false) :
    (t ++ rest).head?.any test = false := by
  rcases h with rfl | ⟨digits, rfl, -⟩
  exacts [hrest, htest]

/-- What a text begins with after an exponent, or instead of it. -/
lemma IsExponent.head?_any {t rest : Text} (h : IsExponent t) {test : Char → Bool}
    (htest : test 'e' = false ∧ test 'E' = false) (hrest : rest.head?.any test = false) :
    (t ++ rest).head?.any test = false := by
  rcases h with rfl | ⟨e, sign, digits, rfl, rfl | rfl, -, -⟩
  exacts [hrest, htest.1, htest.2]

section

variable {digits : Nat} {whole fraction exponent rest : Text}

/-- **The parts of a number are read**, and what follows is left. -/
lemma number_append (hwhole : IsWhole whole) (hfraction : IsFraction fraction)
    (hexponent : IsExponent exponent) (hrest : Closes rest) (negative : Bool) :
    number digits negative (whole ++ fraction ++ exponent ++ rest) =
      if fraction.isEmpty && exponent.isEmpty then
        if Nat.pow 10 digits ≤ natOf whole then .error .tooLong
        else .ok (.int (if negative then -Int.ofNat (natOf whole) else Int.ofNat (natOf whole)),
          rest)
      else
        .ok (.real ((if negative then ['-'] else []) ++ whole ++ fraction ++ exponent), rest) := by
  have hdigit : rest.head?.any Char.isDigit = false := hrest.head?_any _ (by decide)
  have hexp : rest.head?.any (fun c => c == 'e' || c == 'E') = false :=
    hrest.head?_any _ (by decide)
  have hdigit' := hexponent.head?_any (by decide) hdigit
  have hpoint := hexponent.head?_any (by decide) (hrest.head?_any (· == '.') (by decide))
  have hdigit'' := hfraction.head?_any (by decide) hdigit'
  rw [List.append_assoc, List.append_assoc, number, whole?_of_isWhole hwhole hdigit'']
  simp only [fraction_append hfraction hdigit' hpoint, exponent_append hexponent hdigit hexp,
    List.append_assoc]

end

/-! ## Words -/

/-- No letter with which a word begins is a digit. -/
lemma ne_of_isDigit {c : Char} (hc : c.isDigit = true) :
    ∀ d ∈ ['n', 't', 'f', 'N', 'I'], d ≠ c := by
  simp only [List.forall_mem_cons]
  refine ⟨?_, ?_, ?_, ?_, ?_, by simp⟩ <;> rintro rfl <;> cases hc

/-- No word begins with a digit, with or without a minus sign. -/
lemma word?_of_isDigit {c : Char} (hc : c.isDigit = true) (rest : Text) :
    word? (c :: rest) = none ∧ word? ('-' :: c :: rest) = none := by
  have hne := ne_of_isDigit hc
  have hminus : '-' ≠ c := by
    rintro rfl
    cases hc
  simp only [List.forall_mem_cons] at hne
  simp [word?, Text.startsWith, hne, hminus]

/-! ## Values -/

section

variable {digits levels fuel : Nat}

/-- A value that begins with a digit, or with a minus sign and a digit, is a number. -/
lemma value_of_isDigit {c : Char} (hc : c.isDigit = true) (negative : Bool) (rest : Text) :
    value digits levels (fuel + 1) ((if negative then ['-'] else []) ++ c :: rest) =
      number digits negative (c :: rest) := by
  obtain ⟨hword, hword'⟩ := word?_of_isDigit hc rest
  cases negative with
  | true =>
    rw [if_pos rfl, List.singleton_append, value, hword']
  | false =>
    have hne : ∀ d ∈ ['"', '[', '{', '-'], ∀ more, c :: rest ≠ d :: more := by
      simp only [List.forall_mem_cons]
      refine ⟨?_, ?_, ?_, ?_, by simp⟩ <;> rintro more heq <;> cases heq <;> cases hc
    simp only [List.forall_mem_cons] at hne
    rw [if_neg (by decide), List.nil_append, value, hword]
    exacts [hne.1, hne.2.1, hne.2.2.1, hne.2.2.2.1]

/-- A number is read, and what follows is left. -/
lemma value_number {whole fraction exponent rest : Text} (hwhole : IsWhole whole)
    (hfraction : IsFraction fraction) (hexponent : IsExponent exponent) (hrest : Closes rest)
    (negative : Bool) :
    value digits levels (fuel + 1)
        ((if negative then ['-'] else []) ++ whole ++ fraction ++ exponent ++ rest) =
      if fraction.isEmpty && exponent.isEmpty then
        if Nat.pow 10 digits ≤ natOf whole then .error .tooLong
        else .ok (.int (if negative then -Int.ofNat (natOf whole) else Int.ofNat (natOf whole)),
          rest)
      else
        .ok (.real ((if negative then ['-'] else []) ++ whole ++ fraction ++ exponent), rest) := by
  have hread : number digits negative _ = _ :=
    number_append hwhole hfraction hexponent hrest negative
  obtain ⟨c, whole, rfl, hc⟩ := hwhole.isDigits.exists_cons
  simp only [List.append_assoc, List.cons_append] at hread ⊢
  rw [value_of_isDigit hc, hread]

/-- A whole number that is not too long is read, and what follows is left. -/
lemma value_of_writesInt {n : Int} {t rest : Text} (h : WritesInt n t)
    (hn : n.natAbs < Nat.pow 10 digits) (hrest : Closes rest) :
    value digits levels (fuel + 1) (t ++ rest) = .ok (.int n, rest) := by
  have hread : ∀ {whole : Text} (negative : Bool), IsWhole whole → natOf whole < Nat.pow 10 digits →
      value digits levels (fuel + 1) ((if negative then ['-'] else []) ++ whole ++ rest) =
        .ok (.int (if negative then -Int.ofNat (natOf whole) else Int.ofNat (natOf whole)),
          rest) := by
    intro whole negative hwhole hlt
    have hnumber : value digits levels (fuel + 1) _ = _ :=
      value_number hwhole (.inl rfl) (.inl rfl) hrest negative
    simpa only [List.append_nil, List.isEmpty_nil, Bool.and_self, if_true,
      if_neg (Nat.not_le.mpr hlt)] using hnumber
  cases h with
  | ofNat h => exact hread false h (by simpa using hn)
  | neg h => exact hread true h (by simpa using hn)

/-- A real number is read as it is written, and what follows is left. -/
lemma value_of_isReal {t rest : Text} (h : IsReal t) (hrest : Closes rest) :
    value digits levels (fuel + 1) (t ++ rest) = .ok (.real t, rest) := by
  cases h with
  | decimal hsign hwhole hfraction hexponent hreal =>
    rename_i sign whole fraction exponent
    have hparts : ¬(fraction.isEmpty && exponent.isEmpty) := by
      simp only [Bool.and_eq_true, List.isEmpty_iff]
      rintro ⟨rfl, rfl⟩
      simp at hreal
    rcases hsign with rfl | rfl
    · exact (value_number hwhole hfraction hexponent hrest false).trans (if_neg hparts)
    · exact (value_number hwhole hfraction hexponent hrest true).trans (if_neg hparts)
  | word h =>
    simp only [List.mem_cons, List.not_mem_nil, or_false] at h
    rcases h with rfl | rfl | rfl <;> rfl

/-- A text is read, and what follows is left. -/
lemma value_of_writesText {t : WideText} {w : Text} (h : WritesText t w) (rest : Text) :
    value digits levels (fuel + 1) ('"' :: w ++ '"' :: rest) = .ok (.text t, rest) := by
  have hlength : w.length < (w ++ '"' :: rest).length + 1 := by
    rw [List.length_append]
    omega
  rw [List.cons_append, value, string?_of_writesText h rest hlength]
  rfl

/-! ## Items and fields -/

/-- A part of a value does not begin with white space. -/
lemma Writes.head?_any_isSpace {part : Part} {t : Text} (h : Writes part t) (rest : Text) :
    (t ++ rest).head?.any isSpace = false := by
  obtain ⟨c, t, rfl, hc⟩ := h.exists_cons
  simp only [beginsNone, Bool.or_eq_false_iff] at hc
  simpa using hc.1.1

/-- After its opening bracket, a list that is not empty has its items. -/
lemma value_list {vs : List (Value CodePoint)} {s t : Text} (hs : Spaces s)
    (h : Writes (.items vs) t) (rest : Text) :
    value digits (levels + 1) (fuel + 1) ('[' :: s ++ t ++ rest) =
      (items digits levels fuel (t ++ rest)).map fun (vs, rest) => (.list vs, rest) := by
  have hskip := skip_append hs (h.head?_any_isSpace rest)
  obtain ⟨c, t, rfl, hc⟩ := h.exists_cons
  have hbracket : c ≠ ']' := by
    rintro rfl
    cases hc
  rw [List.append_assoc, List.cons_append, value, hskip, List.cons_append]
  split
  · rename_i heq
    exact absurd (List.cons.inj heq).1 hbracket
  · rfl

/-- After its opening brace, an object that is not empty has its fields. -/
lemma value_object {fs : List (WideText × Value CodePoint)} {s t : Text} (hs : Spaces s)
    (h : Writes (.fields fs) t) (rest : Text) :
    value digits (levels + 1) (fuel + 1) ('{' :: s ++ t ++ rest) =
      (fields digits levels fuel [] (t ++ rest)).map fun (fs, rest) => (.object fs, rest) := by
  have hskip := skip_append hs (h.head?_any_isSpace rest)
  obtain ⟨c, t, rfl, hc⟩ := h.exists_cons
  have hbrace : c ≠ '}' := by
    rintro rfl
    cases hc
  rw [List.append_assoc, List.cons_append, value, hskip, List.cons_append]
  split
  · rename_i heq
    exact absurd (List.cons.inj heq).1 hbrace
  · rfl

end

/-- The reader reads a part of a value that keeps within its limits, and leaves what follows. To the
fields of an object it adds those that were read before. -/
def Reads (digits : Nat) : Part → Text → Prop
  | .value v, t => ∀ {levels fuel rest}, Fits digits levels v → t.length < fuel → Closes rest →
      value digits levels fuel (t ++ rest) = .ok (v, rest)
  | .items vs, t => ∀ {levels fuel rest}, (∀ v ∈ vs, Fits digits levels v) → t.length < fuel →
      items digits levels fuel (t ++ rest) = .ok (vs, rest)
  | .fields fs, t => ∀ {levels fuel before rest}, (∀ f ∈ fs, Fits digits levels f.2) →
      t.length < fuel → ((before ++ fs).map (·.1)).Nodup →
        fields digits levels fuel before (t ++ rest) = .ok (before ++ fs, rest)

/-- The key of a field is read, then its value. After them comes a comma with further fields, or the
closing brace. -/
lemma fields_field {digits levels : Nat} {key : WideText} {w s s' t s'' : Text}
    {v : Value CodePoint} (hkey : WritesText key w) (hs : Spaces s) (hs' : Spaces s')
    (h : Writes (.value v) t) (hv : Reads digits (.value v) t) (hfits : Fits digits levels v)
    (hs'' : Spaces s'') {c : Char} (hc : c = '}' ∨ c = ',') {fuel : Nat} (hfuel : t.length < fuel)
    (before : List (WideText × Value CodePoint)) (rest : Text) :
    fields digits levels (fuel + 1) before
        ('"' :: (w ++ '"' :: (s ++ ':' :: (s' ++ (t ++ (s'' ++ c :: rest)))))) =
      if c = '}' then .ok (Assoc.set key v before, rest)
      else fields digits levels fuel (Assoc.set key v before) (skip rest) := by
  have hlength : w.length <
      (w ++ '"' :: (s ++ ':' :: (s' ++ (t ++ (s'' ++ c :: rest))))).length + 1 := by
    rw [List.length_append]
    omega
  have hcloses : Closes (s'' ++ c :: rest) :=
    closes_append hs'' (by rcases hc with rfl | rfl <;> rfl)
  have hskip : skip (s'' ++ c :: rest) = c :: rest :=
    skip_append hs'' (by rcases hc with rfl | rfl <;> rfl)
  rw [fields, string?_of_writesText hkey _ hlength]
  simp only [skip_append hs (t := ':' :: _) rfl, skip_append hs' (h.head?_any_isSpace _),
    hv hfits hfuel hcloses, hskip]
  rcases hc with rfl | rfl <;> rfl

/-- **Every part of a value is read.** -/
theorem reads_of_writes {digits : Nat} {part : Part} {t : Text} (h : Writes part t) :
    Reads digits part t := by
  induction h with
  | null | boolTrue | boolFalse =>
    intro levels fuel rest hfits hfuel hrest
    obtain ⟨fuel, rfl, -⟩ := exists_eq_succ_of_lt hfuel
    rfl
  | int h =>
    intro levels fuel rest hfits hfuel hrest
    obtain ⟨fuel, rfl, -⟩ := exists_eq_succ_of_lt hfuel
    cases hfits with
    | int hn => exact value_of_writesInt h hn hrest
  | real h =>
    intro levels fuel rest hfits hfuel hrest
    obtain ⟨fuel, rfl, -⟩ := exists_eq_succ_of_lt hfuel
    exact value_of_isReal h hrest
  | text h =>
    intro levels fuel rest hfits hfuel hrest
    obtain ⟨fuel, rfl, -⟩ := exists_eq_succ_of_lt hfuel
    rw [List.append_assoc]
    exact value_of_writesText h rest
  | emptyList hs =>
    intro levels fuel rest hfits hfuel hrest
    obtain ⟨fuel, rfl, -⟩ := exists_eq_succ_of_lt hfuel
    cases hfits with
    | list _ =>
      rw [List.append_assoc, List.cons_append, value, skip_append hs rfl]
      rfl
  | list hs h ih =>
    intro levels fuel rest hfits hfuel hrest
    obtain ⟨fuel, rfl, hfuel⟩ := exists_eq_succ_of_lt hfuel
    simp only [List.length_append, List.length_cons] at hfuel
    cases hfits with
    | list hfits =>
      rw [value_list hs h, ih hfits (by omega)]
      rfl
  | emptyObject hs =>
    intro levels fuel rest hfits hfuel hrest
    obtain ⟨fuel, rfl, -⟩ := exists_eq_succ_of_lt hfuel
    cases hfits with
    | object _ =>
      rw [List.append_assoc, List.cons_append, value, skip_append hs rfl]
      rfl
  | object hs hkeys h ih =>
    intro levels fuel rest hfits hfuel hrest
    obtain ⟨fuel, rfl, hfuel⟩ := exists_eq_succ_of_lt hfuel
    simp only [List.length_append, List.length_cons] at hfuel
    cases hfits with
    | object hfits =>
      rw [value_object hs h, ih hfits (by omega) (by exact hkeys)]
      rfl
  | lastItem h hs ih =>
    intro levels fuel rest hfits hfuel
    obtain ⟨fuel, rfl, hfuel⟩ := exists_eq_succ_of_lt hfuel
    simp only [List.length_append, List.length_cons] at hfuel
    simp only [List.append_assoc, List.cons_append, List.nil_append]
    rw [items, ih (hfits _ List.mem_cons_self) (by omega) (closes_append hs (by rfl))]
    simp only [skip_append hs (t := ']' :: rest) rfl]
  | item h hs hs' hrest ih ih' =>
    intro levels fuel rest hfits hfuel
    obtain ⟨hv, hvs⟩ := List.forall_mem_cons.mp hfits
    obtain ⟨fuel, rfl, hfuel⟩ := exists_eq_succ_of_lt hfuel
    simp only [List.length_append, List.length_cons] at hfuel
    simp only [List.append_assoc, List.cons_append]
    rw [items, ih hv (by omega) (closes_append hs (by rfl))]
    simp only [skip_append hs (t := ',' :: _) rfl]
    rw [skip_append hs' (hrest.head?_any_isSpace rest), ih' hvs (by omega)]
    rfl
  | lastField hkey hs hs' h hs'' ih =>
    intro levels fuel before rest hfits hfuel hkeys
    obtain ⟨fuel, rfl, hfuel⟩ := exists_eq_succ_of_lt hfuel
    simp only [List.length_append, List.length_cons] at hfuel
    simp only [List.append_assoc, List.cons_append, List.nil_append]
    rw [fields_field hkey hs hs' h ih (hfits _ List.mem_cons_self) hs'' (.inl rfl) (by omega),
      if_pos rfl, Assoc.set_of_not_mem _ (Assoc.not_mem_keys_of_nodup hkeys)]
  | field hkey hs hs' h hs₁ hs₂ hrest ih ih' =>
    intro levels fuel before rest hfits hfuel hkeys
    obtain ⟨hv, hfs⟩ := List.forall_mem_cons.mp hfits
    obtain ⟨fuel, rfl, hfuel⟩ := exists_eq_succ_of_lt hfuel
    simp only [List.length_append, List.length_cons] at hfuel
    simp only [List.append_assoc, List.cons_append]
    rw [fields_field hkey hs hs' h ih hv hs₁ (.inr rfl) (by omega), if_neg (by decide),
      Assoc.set_of_not_mem _ (Assoc.not_mem_keys_of_nodup hkeys),
      skip_append hs₂ (hrest.head?_any_isSpace rest), ih' hfs (by omega) (by simpa using hkeys),
      List.append_assoc, List.singleton_append]

/-- A text of JSON is read within limits that its value keeps. -/
lemma readWithin_of_isTextOf {digits levels : Nat} {v : Value CodePoint} {t : Text}
    (h : IsTextOf v t) (hfits : Fits digits levels v) : readWithin digits levels t = .ok v := by
  obtain ⟨s, w, s', hs, hw, hs', rfl⟩ := h
  have hskip : skip (s ++ w ++ s') = w ++ s' := by
    rw [List.append_assoc, skip_append hs (hw.head?_any_isSpace s')]
  have hfuel : w.length < 2 * (s ++ w ++ s').length + 2 := by
    simp only [List.length_append]
    omega
  have hcloses : Closes (s' ++ []) := closes_append hs' rfl
  have hend : skip (s' ++ []) = [] := skip_append hs' rfl
  rw [List.append_nil] at hcloses hend
  rw [readWithin, hskip, reads_of_writes hw hfits hfuel hcloses]
  simp only [hend, List.isEmpty_nil, if_true]

/-- **Every text of JSON is read** as the value that it writes, as long as no integer is too long
and nothing lies too deep in lists and objects. -/
theorem read_of_isTextOf {levels : Nat} {v : Value CodePoint} {t : Text} (h : IsTextOf v t)
    (hfits : Fits Text.mostDigits levels v) : read levels t = .ok v :=
  readWithin_of_isTextOf h hfits

/-- **A text writes one value at most.** Within limits as wide as the text is long, it is read as
each value that it writes. -/
theorem IsTextOf.unique {v v' : Value CodePoint} {t : Text} (h : IsTextOf v t)
    (h' : IsTextOf v' t) : v = v' :=
  Except.ok.inj ((readWithin_of_isTextOf h h.fits).symm.trans (readWithin_of_isTextOf h' h'.fits))

end DeclIndex.Json
