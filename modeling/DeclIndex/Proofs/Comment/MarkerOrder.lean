import DeclIndex.Proofs.Comment.Below

/-!
# The order of the markers

Which markers there are decides everything about comments: neither the order in which they are given
nor repetitions among them make a difference. Markers are looked for at the ends of lines alone, and
there it is the longest one that is found, of which there is only one.

## Main results

* `Comment.opening?_eq_of_mem_iff`, `Comment.ending?_eq_of_mem_iff` — the same marker is found at an
  end of a line.
* `Comment.Covers.of_mem_iff` — a documentation string covers the same lines.
* `Comment.comments_eq_of_mem_iff` — lines are stripped and comments are found in the same way.
-/

namespace DeclIndex.Comment

open Text

section

variable {markers others : List Text} (hsame : ∀ m, m ∈ markers ↔ m ∈ others)

include hsame

/-! ## The ends of a line -/

/-- The longest marker that passes a test is the same. -/
lemma isLongest_iff_of_mem_iff (test : Text → Prop) (m : Text) :
    IsLongest markers test m ↔ IsLongest others test m := by
  have himp : ∀ {given rest : List Text}, (∀ n, n ∈ given ↔ n ∈ rest) →
      IsLongest given test m → IsLongest rest test m := by
    intro given rest hsame h
    exact ⟨(hsame m).mp h.mem, h.passes, fun n hn => h.longest n ((hsame n).mpr hn)⟩
  exact ⟨himp hsame, himp fun n => (hsame n).symm⟩

/-- The same marker is found at the start of a line. -/
lemma opening?_eq_of_mem_iff (line : Text) : opening? markers line = opening? others line := by
  refine Option.ext fun m => ?_
  rw [opening?_eq_some_iff, opening?_eq_some_iff, isLongest_iff_of_mem_iff hsame]

/-- The same marker is found at the end of a line. -/
lemma ending?_eq_of_mem_iff (line : Text) : ending? markers line = ending? others line := by
  refine Option.ext fun m => ?_
  rw [ending?_eq_some_iff, ending?_eq_some_iff, isLongest_iff_of_mem_iff hsame]

/-- A line is a comment or not. -/
lemma isComment_eq_of_mem_iff (line : Text) : isComment markers line = isComment others line := by
  rw [Bool.eq_iff_iff, isComment, isComment, List.any_eq_true, List.any_eq_true]
  simp only [hsame]

/-! ## Stripped lines -/

/-- The same is stripped from the start of a line. -/
lemma stripStart_eq_of_mem_iff (n : Nat) (line : Text) :
    stripStart markers n line = stripStart others n line := by
  induction n generalizing line with
  | zero => rfl
  | succ n ih => simp only [stripStart, opening?_eq_of_mem_iff hsame, ih]

/-- The same is stripped from the end of a line. -/
lemma stripEnd_eq_of_mem_iff (n : Nat) (line : Text) :
    stripEnd markers n line = stripEnd others n line := by
  induction n generalizing line with
  | zero => rfl
  | succ n ih => simp only [stripEnd, ending?_eq_of_mem_iff hsame, ih]

/-- A line is stripped to the same text. -/
lemma strip_eq_of_mem_iff (line : Text) : strip markers line = strip others line := by
  simp only [strip, stripStart_eq_of_mem_iff hsame, stripEnd_eq_of_mem_iff hsame]

/-! ## Comments -/

/-- Comment lines are put on one line in the same way. -/
lemma oneLine_eq_of_mem_iff (lines : List Text) : oneLine markers lines = oneLine others lines := by
  have hstrip : strip markers = strip others := funext (strip_eq_of_mem_iff hsame)
  rw [oneLine, oneLine, hstrip]

/-- A documentation string covers the same lines. -/
lemma Covers.of_mem_iff {depth : Nat} {covered after : List Text}
    (h : Covers markers depth covered after) : Covers others depth covered after := by
  have hopens : ∀ {first mark}, Opens markers first mark → Opens others first mark :=
    fun h => ⟨h.not_blank, (isLongest_iff_of_mem_iff hsame _ _).mp h.longest⟩
  cases h with
  | noDepth => exact .noDepth
  | noLine => exact .noLine
  | noMarker htext hnone => exact .noMarker htext fun m hm => hnone m ((hsame m).mpr hm)
  | line hfirst hquote hends => exact .line (hopens hfirst) hquote hends
  | quoted hfirst hquote hends hstop => exact .quoted (hopens hfirst) hquote hends hstop
  | run hfirst hquote hstop => exact .run (hopens hfirst) hquote hstop

/-- The same comment is found above a line. -/
lemma aboveAt_eq_of_mem_iff (lines : List Text) (index depth : Int) :
    aboveAt markers lines index depth = aboveAt others lines index depth := by
  have hcomment : isComment markers = isComment others :=
    funext (isComment_eq_of_mem_iff hsame)
  rw [aboveAt_eq_oneLine, aboveAt_eq_oneLine, hcomment, oneLine_eq_of_mem_iff hsame]

/-- The same documentation string is found below a line. -/
lemma belowAt_eq_of_mem_iff (lines : List Text) (index depth : Int) :
    belowAt markers lines index depth = belowAt others lines index depth := by
  obtain ⟨blanks, covered, after, hparts⟩ :=
    exists_parts markers depth.toNat (lines.drop (index + 1).toNat)
  have hothers : Parts others depth.toNat (lines.drop (index + 1).toNat) blanks covered after :=
    ⟨hparts.split, hparts.blank, hparts.covers.of_mem_iff hsame⟩
  rw [belowAt, belowAt, below_of_parts hparts, below_of_parts hothers,
    oneLine_eq_of_mem_iff hsame]

/-- **The order of the markers never matters.** Two lists with the same markers, in any order and
with any repetitions, strip every line to the same text, take the same lines for comments and find
the same comments above and below every line. So the markers may be gathered in a set and come out
of it in any order.

**Proof sketch.** The marker that is found at an end of a line is the longest one there, which is
the same for both lists. Stripping finds nothing else. The comment above a line depends on which lines
are comments and on their stripped texts; the documentation string below it on the marker that its
first line begins with and on stripped texts. -/
theorem comments_eq_of_mem_iff :
    (∀ line, strip markers line = strip others line) ∧
      (∀ line, isComment markers line = isComment others line) ∧
      (∀ lines index depth, aboveAt markers lines index depth = aboveAt others lines index depth) ∧
      ∀ lines index depth, belowAt markers lines index depth = belowAt others lines index depth :=
  ⟨strip_eq_of_mem_iff hsame, isComment_eq_of_mem_iff hsame, aboveAt_eq_of_mem_iff hsame,
    belowAt_eq_of_mem_iff hsame⟩

end

/-- Two quotation marks of one length, given in either order: the string ends at its own mark. -/
theorem comments_eq_of_mem_iff_quotes :
    (∀ m : Text, m ∈ (["\"\"\"", "'''", "#"] : List Text) ↔
      m ∈ (["#", "'''", "\"\"\"", "'''"] : List Text)) ∧
    belowAt ["\"\"\"", "'''", "#"] ["def f():", "'''One \"\"\"", "two.'''", "three"] 0 5 =
      "One two." ∧
    belowAt ["#", "'''", "\"\"\"", "'''"] ["def f():", "'''One \"\"\"", "two.'''", "three"] 0 5 =
      "One two." := by
  have hsame : ∀ m : Text, m ∈ (["\"\"\"", "'''", "#"] : List Text) ↔
      m ∈ (["#", "'''", "\"\"\"", "'''"] : List Text) := by
    intro m
    simp only [List.mem_cons, List.not_mem_nil, or_false]
    tauto
  have hfirst :
      belowAt ["\"\"\"", "'''", "#"] ["def f():", "'''One \"\"\"", "two.'''", "three"] 0 5 =
      "One two." := by decide
  exact ⟨hsame, hfirst, ((comments_eq_of_mem_iff hsame).2.2.2 _ 0 5).symm.trans hfirst⟩

end DeclIndex.Comment
