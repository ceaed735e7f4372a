import DeclIndex.Proofs.Text.Trim
import DeclIndex.Text.Case

/-!
# Letters and white space

Letters of ASCII are word characters, and no word character is white space. Hence a text of word
characters is its own trimmed form, and trimming a text leaves what stands between its first and its
last word alone.

## Main definitions

* `Text.asciiLetters` — the letters of ASCII and the underscore.
* `Text.isName` — a letter of ASCII or an underscore, then word characters, with further characters
  that count as letters.
* `Text.CapitalName` — a name with a capital initial.
* `Text.hasNoCase` — a character without case.
* `Text.caselessBlocks` — blocks of characters without case.
* `Text.blanks` — the characters of white space.
* `Text.isSolid` — a text without white space that is not empty.

## Main results

* `Text.isBlank_of_isWord` — no word character is white space.
* `Text.agree_comm` — agreement up to case goes both ways.
* `Text.eq_of_agree` — characters without case agree only with themselves.
* `Text.trim_append` — trimming a text that has white space around it.
-/

namespace DeclIndex.Text

/-! ## Letters -/

/-- The letters of ASCII and the underscore. -/
def asciiLetters : Text :=
  "ABCDEFGHIJKLMNOPQRSTUVWXYZabcdefghijklmnopqrstuvwxyz_"

/-- A statement about all characters of ASCII is a statement about finitely many numbers. -/
private lemma of_forall_ascii {P : Char → Prop} (h : ∀ n < 128, P (Char.ofNat n)) {c : Char}
    (hc : c.toNat < 128) : P c := by
  have hP := h c.toNat hc
  rwa [Char.ofNat_toNat] at hP

/-- The numbers of the capital letters of ASCII. -/
lemma isUpper_iff {c : Char} : c.isUpper = true ↔ 0x41 ≤ c.toNat ∧ c.toNat ≤ 0x5A :=
  decide_eq_true_iff.trans (and_congr UInt32.le_iff_toNat_le UInt32.le_iff_toNat_le)

/-- The numbers of the letters of ASCII and of the underscore. -/
lemma isAsciiLetter_iff {c : Char} : isAsciiLetter c = true ↔
    (0x41 ≤ c.toNat ∧ c.toNat ≤ 0x5A ∨ 0x61 ≤ c.toNat ∧ c.toNat ≤ 0x7A) ∨ c.toNat = 0x5F := by
  have hlower : c.isLower = true ↔ 0x61 ≤ c.toNat ∧ c.toNat ≤ 0x7A :=
    (Bool.and_eq_true_iff).trans (and_congr (decide_eq_true_iff.trans UInt32.le_iff_toNat_le)
      (decide_eq_true_iff.trans UInt32.le_iff_toNat_le))
  have hunderscore : c = '_' ↔ c.toNat = 0x5F := Char.toNat_inj.symm
  show ((c.isUpper || c.isLower) || c == '_') = true ↔ _
  rw [Bool.or_eq_true, Bool.or_eq_true, beq_iff_eq, isUpper_iff, hlower, hunderscore]

/-- A letter of ASCII is a character of ASCII. -/
lemma toNat_lt_of_isAsciiLetter {c : Char} (h : isAsciiLetter c = true) : c.toNat < 128 := by
  rw [isAsciiLetter_iff] at h
  omega

/-- The letters of ASCII are those that are listed. -/
lemma mem_asciiLetters {c : Char} (h : isAsciiLetter c = true) : c ∈ asciiLetters := by
  have hlist : asciiLetters =
      (List.range' 0x41 26 ++ List.range' 0x61 26 ++ [0x5F]).map Char.ofNat := rfl
  rw [isAsciiLetter_iff] at h
  rw [hlist, List.mem_map]
  refine ⟨c.toNat, ?_, Char.ofNat_toNat c⟩
  simp only [List.mem_append, List.mem_range'_1, List.mem_singleton]
  omega

/-- A letter of ASCII is a word character. -/
lemma isWord_of_isAsciiLetter {c : Char} (h : isAsciiLetter c = true) : isWord c = true := by
  rw [isWord, if_pos (toNat_lt_of_isAsciiLetter h)]
  rcases Bool.or_eq_true_iff.mp h with halpha | hunderscore
  · show ((c.isAlpha || c.isDigit) || c == '_') = true
    rw [halpha, Bool.true_or, Bool.true_or]
  · rw [hunderscore, Bool.or_true]

/-- A name: a letter of ASCII, an underscore or one of some further characters, and then word
characters or any of the further ones. -/
def isName (t extra : Text) : Bool :=
  match t with
  | [] => false
  | c :: rest => (isAsciiLetter c || c ∈ extra) && rest.all fun d => isWord d || d ∈ extra

/-- The first character of a name and those after it. -/
lemma exists_cons_of_isName {extra t : Text} (h : t.isName extra = true) :
    ∃ c rest, t = c :: rest ∧ (isAsciiLetter c = true ∨ c ∈ extra) ∧
      ∀ d ∈ rest, isWord d = true ∨ d ∈ extra := by
  cases t with
  | nil => simp [isName] at h
  | cons c rest =>
    refine ⟨c, rest, rfl, ?_⟩
    simpa [isName] using h

/-- All characters of a name are word characters or further ones. -/
lemma isWord_of_mem_of_isName {extra t : Text} (h : t.isName extra = true) {c : Char}
    (hc : c ∈ t) : isWord c = true ∨ c ∈ extra := by
  obtain ⟨d, rest, rfl, hd, hrest⟩ := exists_cons_of_isName h
  rcases List.mem_cons.mp hc with rfl | hc
  · exact hd.imp_left isWord_of_isAsciiLetter
  · exact hrest c hc

/-- The capital letters of ASCII. -/
def capitals : Text :=
  "ABCDEFGHIJKLMNOPQRSTUVWXYZ"

/-- The capital letters of ASCII are those that are listed. -/
lemma mem_capitals {c : Char} (h : c.isUpper = true) : c ∈ capitals := by
  have hlist : capitals = (List.range' 0x41 26).map Char.ofNat := rfl
  rw [isUpper_iff] at h
  rw [hlist, List.mem_map]
  refine ⟨c.toNat, ?_, Char.ofNat_toNat c⟩
  rw [List.mem_range'_1]
  omega

/-- A name with a capital initial. -/
structure CapitalName where
  text : Text
  isName : text.isName [] = true := by decide
  isCapital : text.head?.any Char.isUpper = true := by decide
  deriving DecidableEq, Repr

/-- The initial of a name and the characters after it. -/
lemma CapitalName.exists_cons (n : CapitalName) :
    ∃ c rest, n.text = c :: rest ∧ c ∈ capitals ∧ ∀ d ∈ rest, isWord d = true := by
  obtain ⟨c, rest, htext, _, hrest⟩ := exists_cons_of_isName n.isName
  have hcapital := n.isCapital
  rw [htext, List.head?_cons, Option.any_some] at hcapital
  exact ⟨c, rest, htext, mem_capitals hcapital,
    fun d hd => (hrest d hd).resolve_right List.not_mem_nil⟩

/-- All characters of a name are word characters. -/
lemma CapitalName.isWord_of_mem (n : CapitalName) {c : Char} (hc : c ∈ n.text) : isWord c = true :=
  (isWord_of_mem_of_isName n.isName hc).resolve_right List.not_mem_nil

/-- A test that fails for capital letters fails for the initial of a name. -/
lemma CapitalName.head?_any (n : CapitalName) {test : Char → Bool}
    (htest : capitals.all (fun c => !test c) = true) (after : Text) :
    (n.text ++ after).head?.any test = false := by
  obtain ⟨c, rest, htext, hc, _⟩ := n.exists_cons
  rw [htext]
  simpa using List.all_eq_true.mp htest c hc

/-- Two texts of which each goes on after the first character that passes a test. -/
lemma append_inj_of_head {test : Char → Bool} {u v x y : Text}
    (hu : ∀ c ∈ u, test c = false) (hv : ∀ c ∈ v, test c = false)
    (hx : x.head?.any test = true) (hy : y.head?.any test = true) (heq : u ++ x = v ++ y) :
    u = v ∧ x = y := by
  have hshort : ∀ {u v x y : Text}, (∀ c ∈ v, test c = false) → x.head?.any test = true →
      u ++ x = v ++ y → v.length ≤ u.length := by
    intro u v x y hv hx heq
    by_contra hlt
    obtain ⟨c, x, rfl⟩ := List.exists_cons_of_ne_nil (l := x) (by rintro rfl; simp at hx)
    have hget : v[u.length]? = some c := by
      have hc := congrArg (·[u.length]?) heq
      simp only [List.getElem?_append_right (Nat.le_refl _), Nat.sub_self,
        List.getElem?_cons_zero] at hc
      rwa [List.getElem?_append_left (by omega), eq_comm] at hc
    have htest : test c = true := by simpa using hx
    rw [hv c (List.mem_of_getElem? hget)] at htest
    exact absurd htest (by decide)
  exact List.append_inj heq (Nat.le_antisymm (hshort hu hy heq.symm) (hshort hv hx heq))

/-! ## Characters that agree -/

/-- A number is on the steps of a row. -/
lemma onStep_iff {first last step n : Nat} :
    onStep first last step n = true ↔ first ≤ n ∧ n ≤ last ∧ (n - first) % step = 0 := by
  simp [onStep, and_assoc]

/-- The lower case of a character is found in one of three ways: in ASCII, by a row of the table, or
not at all, and then it is the character itself. -/
lemma lowerChar_cases (c : Char) :
    (c.toNat < 128 ∧ lowerChar c = c.toLower) ∨ (128 ≤ c.toNat ∧ lowerChar c = c) ∨
      ∃ r ∈ Table.lowerMapping, onStep r.1 r.2.1 r.2.2.1 c.toNat = true ∧
        lowerChar c = Char.ofNat (r.2.2.2 + (c.toNat - r.1)) := by
  unfold lowerChar
  split
  · rename_i hascii
    exact Or.inl ⟨hascii, rfl⟩
  · rename_i hascii
    split
    · rename_i r hr
      exact Or.inr (Or.inr ⟨r, List.mem_of_find?_eq_some hr, by simpa using List.find?_some hr, rfl⟩)
    · exact Or.inr (Or.inl ⟨by omega, rfl⟩)

/-- The rows of the table lead behind the capital letters of ASCII, those that lead to ASCII from one
character each, and to numbers of characters only. -/
lemma rows_to_chars : ∀ r ∈ Table.lowerMapping,
    (0x5A < r.2.2.2 ∧ (r.2.2.2 < 128 → r.1 = r.2.1)) ∧
      (r.2.2.2 + (r.2.1 - r.1) < 0xD800 ∨
        0xDFFF < r.2.2.2 ∧ r.2.2.2 + (r.2.1 - r.1) < 0x110000) := by
  decide +kernel

/-- The number of a character that is given by its number. -/
private lemma toNat_ofNat_of_isValidChar {n : Nat} (h : n.isValidChar) : (Char.ofNat n).toNat = n := by
  rw [Char.ofNat, dif_pos h]
  rfl

/-- The character that a row of the table leads to. -/
lemma toNat_ofNat_of_row {r : Nat × Nat × Nat × Nat} (hr : r ∈ Table.lowerMapping) {n : Nat}
    (hn : onStep r.1 r.2.1 r.2.2.1 n = true) :
    (Char.ofNat (r.2.2.2 + (n - r.1))).toNat = r.2.2.2 + (n - r.1) := by
  obtain ⟨hfirst, hlast, _⟩ := onStep_iff.mp hn
  refine toNat_ofNat_of_isValidChar ?_
  rcases (rows_to_chars r hr).2 with h | ⟨h, h'⟩
  · exact Or.inl (by omega)
  · exact Or.inr ⟨by omega, by omega⟩

/-- Characters agree if the lower case of one is a companion of that of the other. -/
private lemma agree_eq_contains (c d : Char) :
    agree c d = (companions (lowerChar c)).contains (lowerChar d) := by
  have hself : lowerChar c ∈ companions (lowerChar c) := by
    unfold companions
    split
    · rename_i s hs
      exact List.mem_map.mpr ⟨_, by simpa using List.find?_some hs, Char.ofNat_toNat _⟩
    · exact List.mem_cons_self
  rw [agree, Bool.or_eq_right_iff_imp]
  intro h
  rw [← beq_iff_eq.mp h]
  exact List.contains_iff_mem.mpr hself

/-- No number is in two sets of the table. -/
private lemma companions_apart : ∀ s ∈ Table.caseCompanions, ∀ n ∈ s,
    n.isValidChar ∧ Table.caseCompanions.find? (fun s => s.contains n) = some s := by
  decide +kernel

/-- The companions of a character have it as a companion. -/
private lemma mem_companions_comm {c d : Char} (h : d ∈ companions c) : c ∈ companions d := by
  unfold companions at h
  split at h
  · rename_i s hs
    obtain ⟨n, hn, rfl⟩ := List.mem_map.mp h
    obtain ⟨hvalid, hfind⟩ := companions_apart s (List.mem_of_find?_eq_some hs) n hn
    rw [companions, toNat_ofNat_of_isValidChar hvalid, hfind]
    exact List.mem_map.mpr ⟨c.toNat, by simpa using List.find?_some hs, Char.ofNat_toNat c⟩
  · rename_i hnone
    rw [List.mem_singleton] at h
    subst h
    rw [companions, hnone]
    exact List.mem_cons_self

/-- Agreement goes both ways. -/
lemma agree_comm (c d : Char) : agree c d = agree d c := by
  rw [agree_eq_contains, agree_eq_contains, Bool.eq_iff_iff, List.contains_iff_mem,
    List.contains_iff_mem]
  exact ⟨mem_companions_comm, mem_companions_comm⟩

/-! ## Characters without case -/

/-- Whether a row neither goes past a character nor leads past it. `Nat.blt` keeps the check of a
whole table short. -/
def missesChar (r : Nat × Nat × Nat × Nat) (c : Char) : Bool :=
  (c.toNat.blt r.1 || r.2.1.blt c.toNat) &&
    (c.toNat.blt r.2.2.2 || (r.2.2.2 + (r.2.1 - r.1)).blt c.toNat)

/-- Whether a character has no case: it is no letter of ASCII, and the tables miss it. -/
def hasNoCase (c : Char) : Bool :=
  !c.isAlpha && (Table.lowerMapping.all fun r => missesChar r c) &&
    Table.caseCompanions.all fun s => !s.contains c.toNat

/-- A character without case is neither on the steps of a row nor among its images. -/
lemma missed_of_hasNoCase {c : Char} (hc : hasNoCase c = true) {r : Nat × Nat × Nat × Nat}
    (hr : r ∈ Table.lowerMapping) : (c.toNat < r.1 ∨ r.2.1 < c.toNat) ∧
      (c.toNat < r.2.2.2 ∨ r.2.2.2 + (r.2.1 - r.1) < c.toNat) := by
  simp only [hasNoCase, Bool.and_eq_true] at hc
  simpa [missesChar] using List.all_eq_true.mp hc.1.2 r hr

/-- In ASCII, what has a lower case of its own or is one is a letter. -/
private lemma eq_or_isAlpha_of_ascii {c : Char} (hascii : c.toNat < 128) :
    c.toLower = c ∨ c.isAlpha = true ∧ c.toLower.isAlpha = true := by
  have hall : ∀ n < 128, (Char.ofNat n).toLower = Char.ofNat n ∨
      (Char.ofNat n).isAlpha = true ∧ (Char.ofNat n).toLower.isAlpha = true := by
    decide
  have hc := hall c.toNat hascii
  rwa [Char.ofNat_toNat] at hc

/-- A character whose lower case has no case is its own lower case, and so is one that has no case
itself. -/
private lemma lowerChar_eq_self {c : Char}
    (h : hasNoCase c = true ∨ hasNoCase (lowerChar c) = true) : lowerChar c = c := by
  have halpha : ∀ d, hasNoCase d = true → d.isAlpha = false := by
    intro d hd
    simp only [hasNoCase, Bool.and_eq_true, Bool.not_eq_true'] at hd
    exact hd.1.1
  rcases lowerChar_cases c with ⟨hascii, hc⟩ | ⟨_, hc⟩ | ⟨r, hr, hstep, hc⟩
  · rw [hc] at h ⊢
    refine (eq_or_isAlpha_of_ascii hascii).resolve_right fun ⟨hletter, hlower⟩ => ?_
    rcases h with h | h
    · exact absurd (hletter.symm.trans (halpha _ h)) (by decide)
    · exact absurd (hlower.symm.trans (halpha _ h)) (by decide)
  · exact hc
  · -- a row goes past the character and leads past its lower case
    obtain ⟨hfirst, hlast, _⟩ := onStep_iff.mp hstep
    rcases h with h | h
    · have hmiss := (missed_of_hasNoCase h hr).1
      omega
    · have hmiss := (missed_of_hasNoCase h hr).2
      rw [hc, toNat_ofNat_of_row hr hstep] at hmiss
      omega

/-- **A character without case agrees with itself alone.** -/
lemma eq_of_agree {c d : Char} (hd : hasNoCase d = true) (h : agree d c = true) : d = c := by
  have hnone : Table.caseCompanions.find? (fun s => s.contains d.toNat) = none := by
    simp only [hasNoCase, Bool.and_eq_true] at hd
    exact List.find?_eq_none.mpr fun s hs => by simpa using List.all_eq_true.mp hd.2 s hs
  rw [agree_eq_contains, lowerChar_eq_self (Or.inl hd), companions, hnone, List.contains_iff_mem,
    List.mem_singleton] at h
  rw [← h] at hd ⊢
  exact lowerChar_eq_self (Or.inr hd)

/-- Blocks of characters without case: those of ASCII before the capital letters, and those beyond
ASCII that hold white space. -/
def caselessBlocks : List (Nat × Nat) :=
  [(0x00, 0x40), (0x80, 0xA0), (0x1680, 0x1680), (0x2000, 0x205F), (0x3000, 0x3000)]

/-- Whether the numbers from the first to the last lie before or behind a block. -/
private def liesApart (first last : Nat) (block : Nat × Nat) : Bool :=
  last.blt block.1 || block.2.blt first

/-- What lies apart from a block does not reach a number in it. -/
private lemma lt_or_lt_of_liesApart {first last : Nat} {block : Nat × Nat}
    (h : liesApart first last block = true) {n : Nat} (hfirst : block.1 ≤ n) (hlast : n ≤ block.2) :
    n < first ∨ last < n := by
  simp only [liesApart, Bool.or_eq_true, Nat.blt_eq] at h
  omega

/-- The tables lie apart from the blocks without case: the rows and their images, the sets of
companions, and the ranges of word characters. -/
private lemma tables_lie_apart : (caselessBlocks.all fun b =>
    (Table.lowerMapping.all fun r =>
      liesApart r.1 r.2.1 b && liesApart r.2.2.2 (r.2.2.2 + (r.2.1 - r.1)) b) &&
    (Table.caseCompanions.all fun s => s.all fun n => liesApart n n b) &&
    Table.alphanumeric.all fun r => liesApart r.1 r.2 b) = true := by
  decide +kernel

/-- **The characters of the blocks have no case**: they are no letters of ASCII, and the tables lie
apart from them. -/
lemma hasNoCase_of_block {block : Nat × Nat} (hblock : block ∈ caselessBlocks) {c : Char}
    (hfirst : block.1 ≤ c.toNat) (hlast : c.toNat ≤ block.2) : hasNoCase c = true := by
  have hends : ∀ b ∈ caselessBlocks, b.2 < 0x41 ∨ 0x7A < b.1 := by decide
  have hapart := tables_lie_apart
  simp only [List.all_eq_true, Bool.and_eq_true] at hapart
  obtain ⟨⟨hrows, hsets⟩, _⟩ := hapart block hblock
  simp only [hasNoCase, Bool.and_eq_true, List.all_eq_true]
  refine ⟨⟨?_, fun r hr => ?_⟩, fun s hs => ?_⟩
  · by_contra halpha
    have hletter : isAsciiLetter c = true := by
      rw [isAsciiLetter, (by simpa using halpha : c.isAlpha = true), Bool.true_or]
    have hbounds := isAsciiLetter_iff.mp hletter
    have hend := hends block hblock
    omega
  · have hrow := lt_or_lt_of_liesApart (hrows r hr).1 hfirst hlast
    have himage := lt_or_lt_of_liesApart (hrows r hr).2 hfirst hlast
    simpa [missesChar] using ⟨hrow, himage⟩
  · rw [Bool.not_eq_true', ← Bool.not_eq_true, List.contains_iff_mem]
    intro hmem
    have hnumber := lt_or_lt_of_liesApart (hsets s hs _ hmem) hfirst hlast
    omega

/-- A character of ASCII before the capital letters has no case. -/
lemma hasNoCase_of_lt {c : Char} (h : c.toNat < 0x41) : hasNoCase c = true :=
  hasNoCase_of_block (by decide : (0x00, 0x40) ∈ caselessBlocks) (Nat.zero_le _)
    (Nat.le_of_lt_succ h)

/-! ## White space -/

/-- The characters of white space. -/
def blanks : Text :=
  [0x20, 0x09, 0x0A, 0x0B, 0x0C, 0x0D, 0x1C, 0x1D, 0x1E, 0x1F, 0x85, 0xA0, 0x1680, 0x2000, 0x2001,
    0x2002, 0x2003, 0x2004, 0x2005, 0x2006, 0x2007, 0x2008, 0x2009, 0x200A, 0x2028, 0x2029, 0x202F,
    0x205F, 0x3000].map Char.ofNat

/-- White space is what is listed. -/
lemma mem_blanks {c : Char} (h : isBlank c = true) : c ∈ blanks := by
  have hlist : blanks = ([0x20] ++ List.range' 0x09 5 ++ List.range' 0x1C 4 ++ [0x85] ++ [0xA0] ++
      [0x1680] ++ List.range' 0x2000 11 ++ [0x2028] ++ [0x2029] ++ [0x202F] ++ [0x205F] ++
      [0x3000]).map Char.ofNat := rfl
  simp only [isBlank, Bool.or_eq_true, Bool.and_eq_true, decide_eq_true_eq, beq_iff_eq] at h
  rw [hlist, List.mem_map]
  refine ⟨c.toNat, ?_, Char.ofNat_toNat c⟩
  simpa only [List.mem_append, List.mem_range'_1, List.mem_singleton, Nat.lt_succ_iff] using h

/-- White space lies in the blocks without case. -/
private lemma exists_block_of_isBlank {c : Char} (h : isBlank c = true) :
    ∃ block ∈ caselessBlocks, block.1 ≤ c.toNat ∧ c.toNat ≤ block.2 := by
  simp only [isBlank, Bool.or_eq_true, Bool.and_eq_true, decide_eq_true_eq, beq_iff_eq] at h
  simp only [caselessBlocks, List.mem_cons, List.not_mem_nil, or_false, exists_eq_or_imp,
    exists_eq_left]
  omega

/-- White space has no case. -/
lemma hasNoCase_of_isBlank {c : Char} (h : isBlank c = true) : hasNoCase c = true := by
  obtain ⟨block, hblock, hfirst, hlast⟩ := exists_block_of_isBlank h
  exact hasNoCase_of_block hblock hfirst hlast

/-- **No word character is white space.** -/
lemma isBlank_of_isWord {c : Char} (h : isWord c = true) : isBlank c = false := by
  by_contra hblank
  rw [Bool.not_eq_false] at hblank
  by_cases hascii : c.toNat < 128
  · have hall : ∀ n < 128, isBlank (Char.ofNat n) = true → isWord (Char.ofNat n) = false := by
      decide
    have hnot := of_forall_ascii (P := fun c => isBlank c = true → isWord c = false) hall hascii
    rw [hnot hblank] at h
    exact Bool.false_ne_true h
  · -- beyond ASCII the ranges of word characters lie apart from the blocks
    have hranges := tables_lie_apart
    simp only [List.all_eq_true, Bool.and_eq_true] at hranges
    obtain ⟨block, hblock, hfirst, hlast⟩ := exists_block_of_isBlank hblank
    rw [isWord, if_neg hascii] at h
    obtain ⟨r, hr, hmem⟩ := List.any_eq_true.mp h
    have hapart := lt_or_lt_of_liesApart ((hranges block hblock).2 r hr) hfirst hlast
    simp only [Bool.and_eq_true, decide_eq_true_eq] at hmem
    omega

/-- A text that is not empty and holds no white space. -/
def isSolid (t : Text) : Bool :=
  !t.isEmpty && t.all fun c => !isBlank c

lemma isSolid_iff {t : Text} : t.isSolid = true ↔ t ≠ [] ∧ ∀ c ∈ t, isBlank c = false := by
  simp [isSolid, List.isEmpty_eq_false_iff]

/-- A name holds no white space. -/
lemma isSolid_of_isName {extra t : Text} (hextra : extra.all (fun c => !isBlank c) = true)
    (h : t.isName extra = true) : t.isSolid = true := by
  refine isSolid_iff.mpr ⟨?_, fun c hc => ?_⟩
  · obtain ⟨c, rest, rfl, _⟩ := exists_cons_of_isName h
    exact List.cons_ne_nil c rest
  · refine (isWord_of_mem_of_isName h hc).elim isBlank_of_isWord fun hmem => ?_
    simpa using List.all_eq_true.mp hextra c hmem

/-- White space before a text is trimmed away. -/
lemma trimStart_append {blank t : Text} (hblank : ∀ c ∈ blank, isBlank c = true)
    (ht : t.head?.any isBlank = false) : trimStart (blank ++ t) = t := by
  induction blank with
  | nil => exact trimStart_eq_self ht
  | cons c blank ih =>
    rw [trimStart, List.cons_append, List.dropWhile_cons_of_pos (hblank c List.mem_cons_self)]
    exact ih fun d hd => hblank d (List.mem_cons_of_mem _ hd)

/-- Trimming the end does not go into a text without white space. -/
lemma trimEnd_append {t : Text} (ht : t.isSolid = true) (before rest : Text) :
    trimEnd (before ++ (t ++ rest)) = before ++ (t ++ trimEnd rest) := by
  obtain ⟨hne, hsolid⟩ := isSolid_iff.mp ht
  have hlast : (before ++ t).reverse.dropWhile isBlank = (before ++ t).reverse := by
    obtain ⟨init, c, rfl⟩ := List.eq_nil_or_concat t |>.resolve_left hne
    rw [List.concat_eq_append, ← List.append_assoc, List.reverse_append, List.reverse_singleton,
      List.singleton_append]
    exact List.dropWhile_cons_of_neg (by simp [hsolid c (by simp)])
  have hdrop : ((before ++ t) ++ rest).reverse.dropWhile isBlank =
      rest.reverse.dropWhile isBlank ++ (before ++ t).reverse := by
    rw [List.reverse_append, List.dropWhile_append]
    split
    · rename_i hnil
      rw [List.isEmpty_iff.mp hnil, List.nil_append, hlast]
    · rfl
  rw [trimEnd, ← List.append_assoc, hdrop, List.reverse_append, List.reverse_reverse,
    List.append_assoc]
  rfl

/-- Trimming the end does not go past a character that is no white space. -/
lemma trimEnd_cons {c : Char} (hc : isBlank c = false) (rest : Text) :
    trimEnd (c :: rest) = c :: trimEnd rest :=
  trimEnd_append (t := [c]) (isSolid_iff.mpr ⟨List.cons_ne_nil c [], by simpa using hc⟩) [] rest

/-- **Trimming a text with white space around it**: what stands before a text without white space
is kept if it does not itself begin with white space. -/
lemma trim_append {blank before t : Text} (hblank : ∀ c ∈ blank, isBlank c = true)
    (hbefore : (before ++ t).head?.any isBlank = false) (ht : t.isSolid = true) (rest : Text) :
    trim (blank ++ (before ++ (t ++ rest))) = before ++ (t ++ trimEnd rest) := by
  have hhead : (before ++ (t ++ rest)).head?.any isBlank = false := by
    obtain ⟨c, t, rfl⟩ := List.exists_cons_of_ne_nil (isSolid_iff.mp ht).1
    cases before with
    | nil => exact hbefore
    | cons d before => exact hbefore
  rw [trim, trimStart_append hblank hhead, trimEnd_append ht]

/-- A text without white space is its own trimmed form. -/
lemma trim_of_isSolid {t : Text} (ht : t.isSolid = true) : trim t = t := by
  obtain ⟨_, hsolid⟩ := isSolid_iff.mp ht
  refine trim_eq_self_iff.mpr ⟨?_, ?_⟩
  · cases hhead : t.head? with
    | none => rfl
    | some c => exact hsolid c (List.mem_of_head? hhead)
  · cases hlast : t.getLast? with
    | none => rfl
    | some c => exact hsolid c (List.mem_of_getLast? hlast)

end DeclIndex.Text
