import DeclIndex.Language.Rust
import DeclIndex.Proofs.Comment.Block
import DeclIndex.Proofs.Profile.Site

/-!
# Barriers

What a line declares depends on the lines above it only through the comment and the attribute lines
that belong to it. A barrier is a line that ends the search for these: it holds code that is more
than attributes, and it is no comment, neither to the reader of code nor to the reader of
documentation. What stands above a barrier is never read from below it, so that the outlines of a
text that is cut at a barrier can be put together again.

## Main definitions

* `Profile.IsBarrier` — a line at which every search upwards ends.
* `Profile.pastAttributes` — the lines above the attribute lines of a declaration.

## Main results

* `Profile.documentation_append_cons` — no documentation reaches over a barrier.
* `Profile.elements_append_barrier` — the elements of a text that is cut at a barrier.
-/

namespace DeclIndex.Profile

variable {p : Profile}

/-! ## Attribute lines -/

/-- A line that is more than attributes. -/
lemma isAttributeLine_eq_false {b : Text} (h : p.stripAttributes (Text.trim b) ≠ []) :
    p.isAttributeLine b = false := by
  simp [isAttributeLine, h]

/-- The lines above a declaration and its attribute lines, for anything that has a text. -/
def pastAttributes {α : Type} (p : Profile) (text : α → Text) (above : List α) : List α :=
  if p.attributes.isNone then above else above.dropWhile fun l => p.isAttributeLine (text l)

/-- The texts of the lines above the attribute lines. -/
lemma map_pastAttributes {α : Type} (text : α → Text) (above : List α) :
    (p.pastAttributes text above).map text = p.aboveAttributes (above.map text) := by
  unfold pastAttributes aboveAttributes
  split
  · rfl
  · rw [List.dropWhile_map]
    rfl

/-- The lines above the attribute lines are among the lines above. -/
lemma mem_of_mem_pastAttributes {α : Type} {text : α → Text} {above : List α} {l : α}
    (h : l ∈ p.pastAttributes text above) : l ∈ above := by
  unfold pastAttributes at h
  split at h
  · exact h
  · exact (List.dropWhile_sublist _).subset h

/-- The attribute lines of a declaration end below a line that is more than attributes. -/
lemma pastAttributes_append_cons {α : Type} {text : α → Text} {l : α}
    (h : p.stripAttributes (Text.trim (text l)) ≠ []) (near far : List α) :
    p.pastAttributes text (near ++ l :: far) = p.pastAttributes text near ++ l :: far := by
  unfold pastAttributes
  split
  · rfl
  · have hstop : (l :: far).dropWhile (fun l => p.isAttributeLine (text l)) = l :: far := by
      rw [List.dropWhile_cons, isAttributeLine_eq_false h]
      rfl
    rw [List.dropWhile_append, hstop]
    split
    · rename_i hempty
      rw [List.isEmpty_iff.mp hempty, List.nil_append]
    · rfl

/-! ## Barriers -/

/-- A line at which every search upwards ends: not blank, no comment for code nor for documentation,
and not made of attributes alone. -/
structure IsBarrier (p : Profile) (line : Text) : Prop where
  not_blank : Text.trim line ≠ []
  not_comment : Comment.isComment p.commentMarkers (Text.trim line) = false
  not_doc : Comment.isComment p.docMarkers (Text.trim line) = false
  not_attributes : p.stripAttributes (Text.trim line) ≠ []

/-- **No documentation reaches over a barrier**: it is the same as if the text began below.

**Proof sketch.** The attribute lines end below the barrier, and then so does the comment block,
whichever markers it is read with. -/
lemma documentation_append_cons {b : Text} (hb : p.IsBarrier b) (near far : List Text)
    (line : Text) (below : List Text) (k : Kind) :
    p.documentation ⟨near ++ b :: far, line, below⟩ k = p.documentation ⟨near, line, below⟩ k := by
  have hattributes : p.aboveAttributes (near ++ b :: far) = p.aboveAttributes near ++ b :: far := by
    have hpast : p.pastAttributes id (near ++ b :: far) = p.pastAttributes id near ++ b :: far :=
      pastAttributes_append_cons hb.not_attributes near far
    simpa only [pastAttributes, aboveAttributes, id_eq] using hpast
  have hdoc : ∀ depth, Comment.above p.docMarkers depth (p.aboveAttributes (near ++ b :: far)) =
      Comment.above p.docMarkers depth (p.aboveAttributes near) := by
    intro depth
    rw [hattributes, Comment.above, Comment.above,
      Comment.linesAbove_append_cons hb.not_blank hb.not_doc]
  have hcomment :
      ∀ depth, Comment.above p.commentMarkers depth (p.aboveAttributes (near ++ b :: far)) =
        Comment.above p.commentMarkers depth (p.aboveAttributes near) := by
    intro depth
    rw [hattributes, Comment.above, Comment.above,
      Comment.linesAbove_append_cons hb.not_blank hb.not_comment]
  simp only [documentation, hdoc, hcomment]

/-- Below a barrier, a line declares what it declares in the text that begins with the barrier. -/
lemma classify?_append_cons {b : Text} (hb : p.IsBarrier b) (near far : List Text) (line : Text)
    (below : List Text) :
    p.classify? ⟨near ++ b :: far, line, below⟩ =
      (p.classify? ⟨near ++ [b], line, below⟩).map (Element.shift far.length) := by
  refine classify?_shift rfl rfl ?_ fun k => ?_
  · simp only [List.length_append, List.length_cons, List.length_nil]
    omega
  · rw [documentation_append_cons hb near far, documentation_append_cons hb near []]

/-! ## Cutting a text -/

/-- The lines from a barrier on declare what they declare without the lines before it. -/
lemma elementAt?_append_barrier {b : Text} (hb : p.IsBarrier b) (before after : List Text)
    {j : Nat} (hj : 1 ≤ j) :
    p.elementAt? (before ++ b :: after) (before.length + j) =
      (p.elementAt? (b :: after) j).map (Element.shift before.length) := by
  obtain ⟨i, rfl⟩ : ∃ i, j = i + 1 := ⟨j - 1, by omega⟩
  rw [elementAt?_append_right, elementAt?_eq_bind, List.getElem?_cons_succ, List.take_succ_cons,
    List.drop_succ_cons]
  cases after[i]? with
  | none => rfl
  | some line =>
    have hsite := classify?_append_cons hb (after.take i).reverse before.reverse line
      (after.drop (i + 1))
    rw [List.length_reverse] at hsite
    simpa using hsite

/-- With documentation above and no confirmations, the lines up to a given one declare what they
declare without the lines after it. -/
lemma elementAt?_append_of_le (hplace : p.docPlacement = .before)
    (hrules : ∀ rule ∈ p.rules, rule.confirm = none) (before after : List Text) {i : Nat}
    (hi : i < before.length) :
    p.elementAt? (before ++ after) i = p.elementAt? before i := by
  rw [elementAt?_eq_bind, elementAt?_eq_bind, List.getElem?_append_left hi,
    List.getElem?_eq_getElem hi, List.take_append_of_le_length (by omega)]
  exact classify?_of_above hplace hrules rfl rfl

/-- The elements from the second line on, in the outline of a text. -/
lemma filter_elements_cons (p : Profile) (line : Text) (lines : List Text) :
    (p.elements (line :: lines)).filter (fun e => e.line ≠ 1) =
      (List.range lines.length).filterMap fun i => p.elementAt? (line :: lines) (i + 1) := by
  have hfirst : ∀ e ∈ (p.elementAt? (line :: lines) 0).toList, ¬ e.line ≠ 1 := by
    intro e he
    have h := line_of_elementAt? (Option.mem_toList.mp he)
    simpa using h
  have hrest : ∀ e ∈ (List.range lines.length).filterMap
      (fun i => p.elementAt? (line :: lines) (i + 1)), e.line ≠ 1 := by
    intro e he
    obtain ⟨i, _, hi⟩ := List.mem_filterMap.mp he
    have h := line_of_elementAt? hi
    push_cast at h
    omega
  have hsplit : p.elements (line :: lines) = (p.elementAt? (line :: lines) 0).toList ++
      (List.range lines.length).filterMap fun i => p.elementAt? (line :: lines) (i + 1) := by
    rw [elements_eq_filterMap_range, List.length_cons, List.range_succ_eq_map,
      List.filterMap_cons, List.filterMap_map]
    cases p.elementAt? (line :: lines) 0 <;> rfl
  rw [hsplit, List.filter_append, List.filter_eq_nil_iff.mpr (by simpa using hfirst),
    List.filter_eq_self.mpr (by simpa using hrest), List.nil_append]

/-- **A text that is cut at a barrier.** Every line below the barrier declares what it declares in
the text that begins with the barrier, further down by the number of lines before it. If moreover
documentation stands above declarations and no rule asks for a confirmation, the lines through the
barrier declare what they declare without the rest, so that the elements of the whole text are those
of its first part and those of its second part, the barrier itself being counted once.

That markers are not empty need not be asked for: with an empty marker every line is a comment, and
there is no barrier.

**Proof sketch.** Below the barrier the two texts differ in the lines above the barrier only, which
no search upwards reaches (`elementAt?_append_barrier`). Through the barrier they differ only in the
lines below, which no rule reads (`elementAt?_append_of_le`). The elements of the whole text are
what its indices yield; the indices are cut behind the barrier. -/
theorem elements_append_barrier (p : Profile) {b : Text} (hb : p.IsBarrier b)
    (before after : List Text) :
    (∀ j, 1 ≤ j →
      p.elementAt? (before ++ b :: after) (before.length + j) =
        (p.elementAt? (b :: after) j).map (Element.shift before.length)) ∧
    (p.docPlacement = .before → (∀ rule ∈ p.rules, rule.confirm = none) →
      (List.range (before.length + 1)).filterMap (p.elementAt? (before ++ b :: after)) =
        p.elements (before ++ [b]) ∧
      p.elements (before ++ b :: after) =
        p.elements (before ++ [b]) ++
          ((p.elements (b :: after)).filter fun e => e.line ≠ 1).map
            (Element.shift before.length)) := by
  refine ⟨fun j hj => elementAt?_append_barrier hb before after hj, fun hplace hrules => ?_⟩
  have hupTo : (List.range (before.length + 1)).filterMap (p.elementAt? (before ++ b :: after)) =
      p.elements (before ++ [b]) := by
    rw [elements_eq_filterMap_range, List.length_append, List.length_singleton]
    refine List.filterMap_congr fun i hi => ?_
    have hlen : i < (before ++ [b]).length := by simpa using hi
    have hle := elementAt?_append_of_le hplace hrules (before ++ [b]) after hlen
    rwa [List.append_assoc, List.singleton_append] at hle
  have hfrom : ((List.range after.length).map (before.length + 1 + ·)).filterMap
      (p.elementAt? (before ++ b :: after)) =
        ((p.elements (b :: after)).filter fun e => e.line ≠ 1).map
          (Element.shift before.length) := by
    rw [filter_elements_cons, List.map_filterMap, List.filterMap_map]
    refine List.filterMap_congr fun i _ => ?_
    have hi := elementAt?_append_barrier hb before after (Nat.le_add_left 1 i)
    rwa [← Nat.add_assoc, Nat.add_right_comm] at hi
  refine ⟨hupTo, ?_⟩
  have hlength : (before ++ b :: after).length = before.length + 1 + after.length := by
    rw [List.length_append, List.length_cons]
    omega
  rw [elements_eq_filterMap_range, hlength, List.range_add, List.filterMap_append, hupTo, hfrom]

/-- The cut at a function of Rust, with comments on both sides of it. -/
theorem elements_append_barrier_rust :
    Language.rust.IsBarrier "fn first() \x7b\x7d" ∧
      Language.rust.docPlacement = .before ∧ (∀ rule ∈ Language.rust.rules, rule.confirm = none) ∧
      Language.rust.elements
          ["/// One.", "fn first() \x7b\x7d", "/// Two.", "#[inline]", "fn second() \x7b\x7d"] =
        Language.rust.elements ["/// One.", "fn first() \x7b\x7d"] ++
          ((Language.rust.elements
              ["fn first() \x7b\x7d", "/// Two.", "#[inline]", "fn second() \x7b\x7d"]).filter
            fun e => e.line ≠ 1).map (Element.shift 1) := by
  have hbarrier : Language.rust.IsBarrier "fn first() \x7b\x7d" :=
    ⟨by decide +kernel, by decide +kernel, by decide +kernel, by decide +kernel⟩
  have hrules : ∀ rule ∈ Language.rust.rules, rule.confirm = none := by decide +kernel
  exact ⟨hbarrier, rfl, hrules,
    ((elements_append_barrier Language.rust hbarrier ["/// One."]
      ["/// Two.", "#[inline]", "fn second() \x7b\x7d"]).2 rfl hrules).2⟩

end DeclIndex.Profile
