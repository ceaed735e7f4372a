import DeclIndex.Language.JavaScript
import DeclIndex.Proofs.Pattern.LongestWord
import DeclIndex.Proofs.Profile.Site

/-!
# Closing brackets before a control word

A line is looked at twice to see whether it is control flow: for its first word, which may come after
closing brackets and separators, and for a declaration marker anywhere in it. Brackets, separators
and white space are neither word characters nor dollar signs and have no case. So none of them is
part of a word or keeps one from standing alone, and both answers are the same without those that a
line begins with.

## Main definitions

* `Profile.CleansTo` — what is left of a line before it is tested for control flow.

## Main results

* `Profile.firstWord?_closers_append` — the first word of a line that begins with closing brackets.
* `Profile.hasMarker_closers_append` — the declaration markers of such a line.
* `Profile.isControlFlow_closers_append` — such a line is control flow if what follows is.
-/

namespace DeclIndex.Profile

variable {p : Profile} {closers : Text}

/-! ## Closing brackets, separators and white space -/

/-- The characters that are passed over in search of the first word. -/
lemma isCloser_iff {c : Char} :
    isCloser c = true ↔ Text.isBlank c = true ∨ c ∈ "\x7b\x7d()[];,".toList := by
  rw [isCloser, Bool.or_eq_true, List.contains_iff_mem]

/-- They are no part of a word, and none has a case. -/
lemma apart_of_isCloser {c : Char} (h : isCloser c = true) :
    Text.isWord c = false ∧ c ≠ '$' ∧ Text.hasNoCase c = true := by
  rcases isCloser_iff.mp h with hblank | hmem
  · refine ⟨?_, ?_, Text.hasNoCase_of_isBlank hblank⟩
    · by_contra hword
      rw [Text.isBlank_of_isWord (by simpa using hword)] at hblank
      exact absurd hblank (by decide)
    · rintro rfl
      exact absurd hblank (by decide)
  · have hall : ("\x7b\x7d()[];,".toList.all fun c =>
        !Text.isWord c && (c != '$' && Text.hasNoCase c)) = true := by
      decide +kernel
    simpa using List.all_eq_true.mp hall c hmem

section

variable (hclosers : ∀ c ∈ closers, isCloser c = true)

include hclosers

/-- **The first word** of a line that begins with closing brackets is that of what follows. -/
lemma firstWord?_closers_append (line : Text) :
    firstWord? (closers ++ line) = firstWord? line := by
  rw [firstWord?, firstWord?, List.dropWhile_append_of_pos hclosers]

/-- **The declaration markers** of a line that begins with closing brackets are those of what
follows, if they are words. -/
lemma hasMarker_closers_append
    (hmarkers : ∀ m ∈ p.declarationMarkers, m ≠ [] ∧ ∀ c ∈ m, Text.isWord c = true) (line : Text) :
    p.hasMarker (closers ++ line) = p.hasMarker line := by
  rw [Bool.eq_iff_iff, hasMarker, hasMarker, Pattern.any_occursIn_ofWords,
    Pattern.any_occursIn_ofWords]
  refine exists_congr fun m => and_congr_right fun hm => ?_
  obtain ⟨hne, hword⟩ := hmarkers m hm
  refine Pattern.stands_separators_append_iff hne (fun c hc d hd => ?_) fun c hc => ?_
  · obtain ⟨hnone, _, hcaseless⟩ := apart_of_isCloser (hclosers c hc)
    rw [Pattern.sameChar_comm]
    exact Pattern.sameChar_of_isWord hnone hcaseless (hword d hd)
  · obtain ⟨hnone, hdollar, _⟩ := apart_of_isCloser (hclosers c hc)
    exact (Pattern.isNeighbour_eq_false_iff _ c).mpr ⟨hnone, hdollar⟩

end

/-! ## Control flow -/

/-- A line is neither blank nor a comment, and something is left of it without its attributes. -/
structure CleansTo (p : Profile) (line code : Text) : Prop where
  isCode : p.isNoCode (Text.trim line) = false
  stripped : p.stripAttributes (Text.trim line) = code
  ne_nil : code ≠ []

/-- Such a line is rejected exactly if what is left is control flow. -/
lemma CleansTo.isSome_code? {line code : Text} (h : p.CleansTo line code) :
    (p.code? line).isSome = !p.isControlFlow code := by
  cases hflow : p.isControlFlow code with
  | false => rw [code?_of_stripAttributes h.isCode h.stripped h.ne_nil hflow]; rfl
  | true =>
    rw [code?]
    dsimp only
    rw [h.isCode, h.stripped, hflow]
    simp

/-- **Closing brackets never hide a control word.** Let the declaration markers of a profile be words
that are not empty. Then a line that begins with brackets, separators and white space is control flow
exactly if what follows them is. So of two lines of which the one and the other are left, both are
rejected or both are kept.

**Proof sketch.** The first word is looked for behind such characters, so that it does not depend on
them. They are not taken for a character of a marker and do not touch one like a further letter, so
that a marker stands alone in the line exactly if it does in what follows. -/
theorem isControlFlow_closers_append
    (hmarkers : ∀ m ∈ p.declarationMarkers, m ≠ [] ∧ ∀ c ∈ m, Text.isWord c = true)
    (hclosers : ∀ c ∈ closers, Text.isBlank c = true ∨ c ∈ "\x7b\x7d()[];,".toList) (line : Text) :
    p.isControlFlow (closers ++ line) = p.isControlFlow line ∧
      ∀ closed plain, p.CleansTo closed (closers ++ line) → p.CleansTo plain line →
        (p.code? closed).isSome = (p.code? plain).isSome := by
  have hall : ∀ c ∈ closers, isCloser c = true := fun c hc => isCloser_iff.mpr (hclosers c hc)
  have hflow : p.isControlFlow (closers ++ line) = p.isControlFlow line := by
    rw [isControlFlow, isControlFlow, firstWord?_closers_append hall,
      hasMarker_closers_append hall hmarkers]
  refine ⟨hflow, fun closed plain hclosed hplain => ?_⟩
  rw [hclosed.isSome_code?, hplain.isSome_code?, hflow]

/-- Closing brackets, separators and a no-break space before a control word of JavaScript. -/
theorem isControlFlow_closers_append_else :
    (∀ m ∈ Language.javascript.declarationMarkers, m ≠ [] ∧ ∀ c ∈ m, Text.isWord c = true) ∧
      (∀ c ∈ ("\x7d)];,\u00a0" : Text), Text.isBlank c = true ∨ c ∈ "\x7b\x7d()[];,".toList) ∧
      Language.javascript.CleansTo "  \x7d)];,\u00a0else if (x) \x7b"
        ("\x7d)];,\u00a0" ++ "else if (x) \x7b") ∧
      Language.javascript.CleansTo "else if (x) \x7b" "else if (x) \x7b" ∧
      Language.javascript.isControlFlow ("\x7d)];,\u00a0" ++ "else if (x) \x7b") =
        Language.javascript.isControlFlow "else if (x) \x7b" ∧
      (Language.javascript.code? "  \x7d)];,\u00a0else if (x) \x7b").isSome =
        (Language.javascript.code? "else if (x) \x7b").isSome := by
  have hmarkers : ∀ m ∈ Language.javascript.declarationMarkers,
      m ≠ [] ∧ ∀ c ∈ m, Text.isWord c = true :=
    List.forall_mem_singleton.mpr ⟨by decide, List.all_eq_true.mp (by decide)⟩
  have hclosers : ∀ c ∈ ("\x7d)];,\u00a0" : Text),
      Text.isBlank c = true ∨ c ∈ "\x7b\x7d()[];,".toList :=
    fun c hc => isCloser_iff.mp (List.all_eq_true.mp (by decide) c hc)
  have hclosed : Language.javascript.CleansTo "  \x7d)];,\u00a0else if (x) \x7b"
      ("\x7d)];,\u00a0" ++ "else if (x) \x7b") :=
    ⟨by decide +kernel, by decide +kernel, by decide⟩
  have hplain : Language.javascript.CleansTo "else if (x) \x7b" "else if (x) \x7b" :=
    ⟨by decide +kernel, by decide +kernel, by decide⟩
  obtain ⟨hflow, hcode⟩ := isControlFlow_closers_append hmarkers hclosers "else if (x) \x7b"
  exact ⟨hmarkers, hclosers, hclosed, hplain, hflow, hcode _ _ hclosed hplain⟩

end DeclIndex.Profile
