import DeclIndex.Proofs.Profile.AttributeStack
import Mathlib.Data.List.TakeWhile

/-!
# Blank lines

Blank lines are passed over in search of a comment, but not in search of the attribute lines below
it. A blank line that is put into a text therefore changes nothing but line numbers, unless it comes
between the attribute lines of a declaration, or between the last of them and the declaration: then
the search for the comment begins below an attribute line, which is no comment, and finds nothing.
At most one declaration loses its comment in this way, and none does in a language without
attributes.

## Main definitions

* `Profile.splitsAttributes` — a line that is put in parts the attribute lines of a declaration.

## Main results

* `Profile.documentation_insert_blank` — the comment of a declaration with a blank line put in above
  it.
* `Profile.elements_insert_blank` — the elements of a text into which a blank line is put.
* `Profile.not_elements_insert_empty` — an empty line can cost a declaration its comment.
-/

namespace DeclIndex.Profile

open Text

variable {p : Profile}

/-- Whether a line that is put in between the lines `upper` and `lower` of a text comes between two
attribute lines of an element, or between the last of them and the element: below an attribute line,
with nothing but attribute lines between it and the line of the element. -/
def splitsAttributes (p : Profile) (upper lower : List Text) (e : Element) : Bool :=
  decide ((upper.length : Int) < e.line) && upper.getLast?.any p.isAttributeLine &&
    (lower.take (e.line.toNat - 1 - upper.length)).all p.isAttributeLine

/-! ## Attribute lines and blank lines -/

/-- A blank line holds no attributes. -/
lemma isAttributeLine_of_blank {line : Text} (h : trim line = []) :
    p.isAttributeLine line = false := by
  simp [isAttributeLine, isNoCode, h]

/-- A blank line holds no code. -/
lemma code?_of_blank {line : Text} (h : trim line = []) : p.code? line = none := by
  simp [code?, isNoCode, h]

/-- Without attributes there are no attribute lines. -/
lemma isAttributeLine_of_isNone (h : p.attributes.isNone = true) (line : Text) :
    p.isAttributeLine line = false := by
  have hsame : p.stripAttributes (trim line) = trim line := by
    rw [stripAttributes, Option.isNone_iff_eq_none.mp h]
  rw [isAttributeLine, hsame, isNoCode]
  cases (trim line).isEmpty <;> simp

/-- An attribute line is not blank, and it is no comment either where every documentation marker
begins with a comment marker. -/
lemma not_doc_of_isAttributeLine (hdocs : p.docsAreNoCode = true) {line : Text}
    (h : p.isAttributeLine line = true) :
    trim line ≠ [] ∧ Comment.isComment p.docMarkers (trim line) = false := by
  have hattributes : p.attributes.isNone = false := by
    by_contra hnone
    rw [isAttributeLine_of_isNone (by simpa using hnone)] at h
    exact absurd h (by decide)
  simp only [isAttributeLine, isNoCode, Bool.and_eq_true, Bool.not_eq_true', Bool.or_eq_false_iff,
    List.isEmpty_eq_false_iff] at h
  refine ⟨h.1.1, ?_⟩
  rw [← Bool.not_eq_true]
  intro hdoc
  obtain ⟨m, hm, hline⟩ := List.any_eq_true.mp hdoc
  have hmarker := List.all_eq_true.mp hdocs m hm
  rw [hattributes, Bool.false_and, Bool.or_false] at hmarker
  obtain ⟨c, hc, hmc⟩ := List.any_eq_true.mp hmarker
  rw [isComment_of_startsWith hc hmc hline] at h
  exact absurd h.1.2 (by decide)

/-! ## The comment of a declaration -/

/-- Above lines that are not all attribute lines the search for attributes does not get. -/
lemma aboveAttributes_append_of_not_all {near : List Text}
    (hnear : near.all p.isAttributeLine = false) (far : List Text) :
    p.aboveAttributes (near ++ far) = p.aboveAttributes near ++ far := by
  have hne : (near.dropWhile p.isAttributeLine).isEmpty = false := by
    rw [List.isEmpty_eq_false_iff]
    intro hempty
    rw [List.all_eq_true.mpr (List.dropWhile_eq_nil_iff.mp hempty)] at hnear
    exact absurd hnear (by decide)
  unfold aboveAttributes
  split
  · rfl
  · rw [List.dropWhile_append, hne]
    rfl

/-- Above a line without attributes, if there are any in the language, the search for attributes does
not get. -/
lemma aboveAttributes_eq_self (hattributes : p.attributes.isNone = false) {above : List Text}
    (h : above.head?.any p.isAttributeLine = false) : p.aboveAttributes above = above := by
  rw [aboveAttributes, hattributes, if_neg (by decide)]
  cases above with
  | nil => rfl
  | cons line above => exact List.dropWhile_cons_of_neg (by simpa using h)

/-- Right above an attribute line that is left no comment is found. -/
lemma above_of_isAttributeLine (hdocs : p.docsAreNoCode = true) {line : Text}
    (h : p.isAttributeLine line = true) (depth : Nat) (far : List Text) :
    Comment.above p.docMarkers depth (line :: far) = [] := by
  obtain ⟨hne, hnotDoc⟩ := not_doc_of_isAttributeLine hdocs h
  have hend := Comment.linesAbove_append_cons hne hnotDoc depth [] far
  rw [List.nil_append] at hend
  rw [Comment.above, hend]
  cases depth <;> rfl

/-- **The comment of a declaration with a blank line put in above it**: none, if the blank line
comes below an attribute line and above nothing but attribute lines of the declaration, and
otherwise what it was.

**Proof sketch.** If a line below the blank one is no attribute line, the search for attributes ends
there, and the search for the comment passes over the blank line. Otherwise the search for
attributes ends at the blank line. The search for the comment begins above it, with a line that is
read in the same way without the blank line, unless it is an attribute line, which ends the
search. -/
lemma documentation_insert_blank (hdocs : p.docsAreNoCode = true)
    (hplace : p.docPlacement = .before) {blank : Text} (hblank : trim blank = [])
    (near far : List Text) (line : Text) (below : List Text) (k : Kind) :
    p.documentation ⟨near ++ blank :: far, line, below⟩ k =
      if near.all p.isAttributeLine && far.head?.any p.isAttributeLine then []
      else p.documentation ⟨near ++ far, line, below⟩ k := by
  simp only [documentation, hplace]
  have hskip : ∀ near, Comment.above p.docMarkers (p.docDepth k).toNat (near ++ blank :: far) =
      Comment.above p.docMarkers (p.docDepth k).toNat (near ++ far) := by
    intro near
    rw [Comment.above, Comment.above, Comment.linesAbove_insert_blank hblank]
  cases hattributes : p.attributes.isNone with
  | true =>
    have hhead : far.head?.any p.isAttributeLine = false := by
      cases far <;> simp [isAttributeLine_of_isNone hattributes]
    rw [hhead, Bool.and_false, if_neg (by decide), aboveAttributes, aboveAttributes, hattributes,
      if_pos rfl, if_pos rfl, hskip]
  | false =>
    cases hnear : near.all p.isAttributeLine with
    | false =>
      rw [Bool.false_and, if_neg (by decide), aboveAttributes_append_of_not_all hnear,
        aboveAttributes_append_of_not_all hnear, hskip]
    | true =>
      have hsome : p.attributes.isSome = true := by
        rw [← Option.not_isNone, hattributes, Bool.not_false]
      have hall := List.all_eq_true.mp hnear
      have hstop : p.aboveAttributes (blank :: far) = [] ++ blank :: far :=
        aboveAttributes_eq_self hattributes (isAttributeLine_of_blank hblank)
      rw [aboveAttributes_append hsome hall, aboveAttributes_append hsome hall, hstop, hskip,
        List.nil_append, Bool.true_and]
      cases hfar : far.head?.any p.isAttributeLine with
      | false => rw [if_neg (by decide), aboveAttributes_eq_self hattributes hfar]
      | true =>
        obtain ⟨line, hline, hattribute⟩ := (Option.any_eq_true _ _).mp hfar
        obtain ⟨far, rfl⟩ := List.head?_eq_some_iff.mp hline
        rw [if_pos rfl, above_of_isAttributeLine hdocs hattribute]

/-! ## The elements of a text -/

/-- What a blank line makes of an element: it moves down if it stands below, and it loses its
comment if the blank line parts its attribute lines. -/
def afterBlank (p : Profile) (upper lower : List Text) (e : Element) : Element :=
  (if p.splitsAttributes upper lower e then { e with documentation := [] } else e).moved
    upper.length 1

/-- What a line below a blank line declares. -/
lemma classify?_insert_blank (hdocs : p.docsAreNoCode = true) (hplace : p.docPlacement = .before)
    (hrules : ∀ rule ∈ p.rules, rule.confirm = none) {blank : Text} (hblank : trim blank = [])
    (upper near : List Text) (line : Text) (below : List Text) :
    p.classify? ⟨near.reverse ++ blank :: upper.reverse, line, below⟩ =
      (p.classify? ⟨near.reverse ++ upper.reverse, line, below⟩).map
        (p.afterBlank upper (near ++ line :: below)) := by
  have hlength : (near.reverse ++ blank :: upper.reverse).length =
      (near.reverse ++ upper.reverse).length + 1 := by
    simp only [List.length_append, List.length_cons]
    omega
  rw [classify?_redocument (s := ⟨near.reverse ++ blank :: upper.reverse, line, below⟩)
    (t := ⟨near.reverse ++ upper.reverse, line, below⟩) rfl
    (fun rule hrule hconfirm => absurd (hrules rule hrule) hconfirm) hlength]
  refine Option.map_congr fun e he => ?_
  obtain ⟨_, _, _, _, _, _, helement⟩ := exists_of_classify? he
  have hline := (declares_of_elementOf? helement).line
  have hdoc := (declares_of_elementOf? helement).documentation
  simp only [List.length_append, List.length_reverse] at hline
  have hlt : (upper.length : Int) < e.line := by omega
  have hbetween : (near ++ line :: below).take (e.line.toNat - 1 - upper.length) = near := by
    rw [show e.line.toNat - 1 - upper.length = near.length by omega, List.take_left]
  have hsplits : p.splitsAttributes upper (near ++ line :: below) e =
      (near.reverse.all p.isAttributeLine && upper.reverse.head?.any p.isAttributeLine) := by
    rw [splitsAttributes, hbetween, decide_eq_true hlt, Bool.true_and, Bool.and_comm,
      List.all_reverse, List.head?_reverse]
  rw [documentation_insert_blank hdocs hplace hblank, afterBlank, hsplits, ← hdoc]
  split
  · exact (Element.moved_of_lt (e := { e with documentation := [] }) hlt 1).symm
  · exact (Element.moved_of_lt hlt 1).symm

/-- The elements of a text into which a blank line is put, one by one. -/
lemma elements_insert_blank_eq_map (hdocs : p.docsAreNoCode = true)
    (hplace : p.docPlacement = .before) (hrules : ∀ rule ∈ p.rules, rule.confirm = none)
    {blank : Text} (hblank : trim blank = []) (upper lower : List Text) :
    p.elements (upper ++ blank :: lower) =
      (p.elements (upper ++ lower)).map (p.afterBlank upper lower) := by
  have hcode : ∀ line ∈ [blank], p.code? line = none := by
    simpa using code?_of_blank hblank
  have hupper : ∀ e : Element, e.line ≤ upper.length → p.afterBlank upper lower e = e := by
    intro e he
    have hsplits : p.splitsAttributes upper lower e = false := by
      rw [splitsAttributes, decide_eq_false (by omega), Bool.false_and, Bool.false_and]
    rw [afterBlank, hsplits, if_neg (by decide), Element.moved_of_le he]
  have hlower : ∀ near line below, lower = near ++ line :: below →
      p.classify? ⟨near.reverse ++ ([blank].reverse ++ upper.reverse), line, below⟩ =
        (p.classify? ⟨near.reverse ++ upper.reverse, line, below⟩).map
          (p.afterBlank upper lower) := by
    rintro near line below rfl
    exact classify?_insert_blank hdocs hplace hrules hblank upper near line below
  have hinsert := elements_insert hplace hrules hcode hupper hlower
  rwa [List.append_assoc, List.singleton_append] at hinsert

/-- An element keeps its place and everything but its comment. -/
lemma afterBlank_eq_moved_iff {upper lower : List Text} {e : Element} :
    p.afterBlank upper lower e = e.moved upper.length 1 ↔
      (p.splitsAttributes upper lower e = true → e.documentation = []) := by
  have hdoc : ∀ e : Element, (e.moved upper.length 1).documentation = e.documentation := by
    intro e
    unfold Element.moved
    split <;> rfl
  unfold afterBlank
  split
  · rename_i hsplits
    constructor
    · intro h _
      have hsame := congrArg Element.documentation h
      rw [hdoc, hdoc] at hsame
      exact hsame.symm
    · intro h
      rw [← h hsplits]
  · rename_i hsplits
    exact ⟨fun _ h => absurd h hsplits, fun _ => rfl⟩

/-- A line parts the attribute lines of one element at most: of two elements below it the line of
the upper one is no attribute line. -/
lemma line_le_of_splitsAttributes {upper lower : List Text} {e f : Element}
    (he : e ∈ p.elements (upper ++ lower)) (hlt : (upper.length : Int) < e.line)
    (hf : p.splitsAttributes upper lower f = true) : f.line ≤ e.line := by
  by_contra hlater
  simp only [splitsAttributes, Bool.and_eq_true, decide_eq_true_eq, List.all_eq_true] at hf
  obtain ⟨i, hi⟩ := mem_elements_iff.mp he
  have hline := line_of_elementAt? hi
  obtain ⟨j, rfl⟩ : ∃ j, i = upper.length + j := ⟨i - upper.length, by omega⟩
  rw [elementAt?_append_right] at hi
  obtain ⟨line, hget, hsite⟩ := Option.bind_eq_some_iff.mp hi
  have hmem : line ∈ lower.take (f.line.toNat - 1 - upper.length) :=
    List.mem_of_getElem? ((List.getElem?_take_of_lt (by omega)).trans hget)
  obtain ⟨code, hcode, _⟩ := exists_of_classify? hsite
  rw [code?_of_isAttributeLine (hf.2 line hmem)] at hcode
  exact absurd hcode.symm (Option.some_ne_none code)

/-- **A blank line in a text.** In a built-in language other than Python and Pascal, put a blank
line into a text. The elements above it stay, and those below it move down by one line. If the blank
line comes between the attribute lines of an element, or between these and the element, that element
has no comment any more; nothing else changes. So the elements are the same up to their line numbers
if and only if no element with a comment is parted from its attribute lines. This can happen to one
element at most, and it never happens in a language without attributes.

**Proof sketch.** A blank line holds no code, so that the text is one into which lines without code
are put (`elements_insert`). What changes for the lines below is the comment, which is found again
unless attribute lines are parted (`documentation_insert_blank`). -/
theorem elements_insert_blank (hp : p ∈ Language.builtin) (hpython : p ≠ Language.python)
    (hpascal : p ≠ Language.pascal) {blank : Text} (hblank : trim blank = [])
    (upper lower : List Text) :
    p.elements (upper ++ blank :: lower) =
      (p.elements (upper ++ lower)).map (p.afterBlank upper lower) ∧
    (p.elements (upper ++ blank :: lower) =
        (p.elements (upper ++ lower)).map (Element.moved upper.length 1) ↔
      ∀ e ∈ p.elements (upper ++ lower),
        p.splitsAttributes upper lower e = true → e.documentation = []) ∧
    (∀ e ∈ p.elements (upper ++ lower), ∀ f ∈ p.elements (upper ++ lower),
      p.splitsAttributes upper lower e = true → p.splitsAttributes upper lower f = true →
        e.line = f.line) ∧
    (p.attributes.isNone = true → ∀ e, p.splitsAttributes upper lower e = false) := by
  obtain ⟨hdocs, hplace⟩ := docsAreNoCode_of_builtin hp hpython
  have hrules := confirm_eq_none_of_builtin hp hpascal
  have hmap := elements_insert_blank_eq_map hdocs hplace hrules hblank upper lower
  refine ⟨hmap, ?_, ?_, ?_⟩
  · rw [hmap, List.map_inj_left]
    exact forall₂_congr fun e _ => afterBlank_eq_moved_iff
  · intro e he f hf hesplits hfsplits
    have hbelow : ∀ {g : Element}, p.splitsAttributes upper lower g = true →
        (upper.length : Int) < g.line := by
      intro g hg
      simp only [splitsAttributes, Bool.and_eq_true, decide_eq_true_eq] at hg
      exact hg.1.1
    have hle := line_le_of_splitsAttributes hf (hbelow hfsplits) hesplits
    have hge := line_le_of_splitsAttributes he (hbelow hesplits) hfsplits
    omega
  · intro hnone e
    have hlast : upper.getLast?.any p.isAttributeLine = false := by
      cases upper.getLast? <;> simp [isAttributeLine_of_isNone hnone]
    rw [splitsAttributes, hlast, Bool.and_false, Bool.false_and]

/-- A blank line between two attribute lines of a function of Rust: the function loses its comment,
and the next one moves down. -/
theorem elements_insert_blank_rust :
    Language.rust ∈ Language.builtin ∧ Language.rust ≠ Language.python ∧
      Language.rust ≠ Language.pascal ∧ trim "  " = [] ∧
      Language.rust.elements
          ["/// One.", "#[inline]", "  ", "#[cfg(test)]", "fn first() {}", "/// Two.",
            "fn second() {}"] =
        (Language.rust.elements
          ["/// One.", "#[inline]", "#[cfg(test)]", "fn first() {}", "/// Two.",
            "fn second() {}"]).map
          (Language.rust.afterBlank ["/// One.", "#[inline]"]
            ["#[cfg(test)]", "fn first() {}", "/// Two.", "fn second() {}"]) := by
  have hrust : Language.rust ∈ Language.builtin := by simp [Language.builtin]
  have hpython : Language.rust ≠ Language.python := mt (congrArg Profile.name) (by decide)
  have hpascal : Language.rust ≠ Language.pascal := mt (congrArg Profile.name) (by decide)
  have hblank : trim "  " = [] := by decide
  exact ⟨hrust, hpython, hpascal, hblank,
    (elements_insert_blank hrust hpython hpascal hblank ["/// One.", "#[inline]"]
      ["#[cfg(test)]", "fn first() {}", "/// Two.", "fn second() {}"]).1⟩

/-- **An empty line can cost a declaration its comment**: a function of Rust with an attribute and
an empty line below the attribute. -/
theorem not_elements_insert_empty :
    ¬ ∀ p ∈ Language.builtin, p ≠ Language.python → p ≠ Language.pascal →
      ∀ upper lower : List Text,
        p.elements (upper ++ [] :: lower) =
          (p.elements (upper ++ lower)).map (Element.moved upper.length 1) := by
  intro h
  have hpython : Language.rust ≠ Language.python := mt (congrArg Profile.name) (by decide)
  have hpascal : Language.rust ≠ Language.pascal := mt (congrArg Profile.name) (by decide)
  have hrust := h Language.rust (by simp [Language.builtin]) hpython hpascal
    ["/// One.", "#[inline]"] ["fn a() {}"]
  revert hrust
  decide +kernel

end DeclIndex.Profile
