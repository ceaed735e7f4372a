import DeclIndex.Proofs.Profile.Inserted

/-!
# Attribute lines

Lines of attributes above a declaration are passed over in search of its comment, so that a comment
above them belongs to the declaration as if they were not there. They hold no code, and they lie
above the line of the declaration, which no search for a comment of a later declaration passes.
Taking them out of a text therefore changes nothing but line numbers.

## Main results

* `Profile.aboveAttributes_append` — attribute lines are passed over.
* `Profile.elements_delete_attributes` — the elements of a text without the attribute lines above a
  declaration.
-/

namespace DeclIndex.Profile

variable {p : Profile}

/-- A line of attributes holds no code. -/
lemma code?_of_isAttributeLine {line : Text} (h : p.isAttributeLine line = true) :
    p.code? line = none := by
  simp only [isAttributeLine, Bool.and_eq_true, Bool.not_eq_true'] at h
  simp [code?, h.1, h.2]

/-- Attribute lines are passed over. -/
lemma aboveAttributes_append (hattributes : p.attributes.isSome = true) {attrs : List Text}
    (hattrs : ∀ a ∈ attrs, p.isAttributeLine a = true) (above : List Text) :
    p.aboveAttributes (attrs ++ above) = p.aboveAttributes above := by
  have hnone : p.attributes.isNone = false := by
    rw [Option.isNone_eq_false_iff]
    exact hattributes
  rw [aboveAttributes, aboveAttributes, hnone]
  exact List.dropWhile_append_of_pos hattrs

/-- A declaration has the comment above its attribute lines. -/
lemma documentation_append_attributes (hplace : p.docPlacement = .before)
    (hattributes : p.attributes.isSome = true) {attrs : List Text}
    (hattrs : ∀ a ∈ attrs, p.isAttributeLine a = true) (above : List Text) (line : Text)
    (below : List Text) (k : Kind) :
    p.documentation ⟨attrs ++ above, line, below⟩ k =
      p.documentation ⟨above, line, below⟩ k := by
  simp only [documentation, hplace, aboveAttributes_append hattributes hattrs]

/-- What a line below attribute lines declares, and what the lines below a declaration with
attribute lines declare, moves up when these are taken out. -/
lemma classify?_insert_attributes (hdocs : p.docsAreNoCode = true)
    (hplace : p.docPlacement = .before) (hattributes : p.attributes.isSome = true)
    {upper attrs after : List Text} {header : Text}
    (hattrs : ∀ a ∈ attrs, p.isAttributeLine a = true)
    (hheader : (p.elementAt? (upper ++ attrs ++ header :: after) (upper ++ attrs).length).isSome =
      true)
    {near below : List Text} {line : Text} (hlower : header :: after = near ++ line :: below) :
    p.classify? ⟨near.reverse ++ (attrs.reverse ++ upper.reverse), line, below⟩ =
      (p.classify? ⟨near.reverse ++ upper.reverse, line, below⟩).map
        (Element.shift attrs.length) := by
  have hlength : (near.reverse ++ (attrs.reverse ++ upper.reverse)).length =
      (near.reverse ++ upper.reverse).length + attrs.length := by
    simp only [List.length_append, List.length_reverse]
    omega
  refine classify?_shift rfl rfl hlength fun k => ?_
  cases near with
  | nil =>
    -- the declaration itself: its comment stands above the attribute lines
    have hreverse : ∀ a ∈ attrs.reverse, p.isAttributeLine a = true :=
      fun a ha => hattrs a (List.mem_reverse.mp ha)
    exact documentation_append_attributes hplace hattributes hreverse _ _ _ k
  | cons _ near =>
    -- a line below the declaration, which is a barrier
    obtain ⟨rfl, -⟩ := List.cons_eq_cons.mp hlower
    rw [← Nat.add_zero (upper ++ attrs).length, elementAt?_append_right] at hheader
    obtain ⟨e, he⟩ := Option.isSome_iff_exists.mp hheader
    have hb : p.IsBarrier header := isBarrier_of_classify? hdocs he
    rw [List.reverse_cons, List.append_assoc, List.append_assoc, List.singleton_append,
      List.singleton_append, documentation_append_cons hb, documentation_append_cons hb]

/-- **Attribute lines are transparent.** In a built-in language that has attributes and whose
documentation stands above declarations, let lines of attributes stand directly above a line that
declares something. Without these lines the text has the same elements: those on the lines above
stay where they are, all others move up by the number of lines taken out.

**Proof sketch.** The text with the attribute lines is the other one with lines put in that hold no
code (`elements_insert`). The search for the comment of the declaration passes over them. The line
of the declaration is a barrier, so that no search from below gets there. -/
theorem elements_delete_attributes (hp : p ∈ Language.builtin)
    (hattributes : p.attributes.isSome = true) (hplace : p.docPlacement = .before)
    (upper : List Text) {attrs : List Text} (hattrs : ∀ a ∈ attrs, p.isAttributeLine a = true)
    (header : Text) (after : List Text)
    (hheader : (p.elementAt? (upper ++ attrs ++ header :: after) (upper ++ attrs).length).isSome =
      true) :
    p.elements (upper ++ header :: after) =
      (p.elements (upper ++ attrs ++ header :: after)).map
        (Element.moved upper.length (-attrs.length)) := by
  have hpython : p ≠ Language.python := by
    rintro rfl
    exact absurd hplace (by decide +kernel)
  have hpascal : p ≠ Language.pascal := by
    rintro rfl
    exact absurd hattributes (by decide +kernel)
  obtain ⟨hdocs, -⟩ := docsAreNoCode_of_builtin hp hpython
  have hinsert : p.elements (upper ++ attrs ++ header :: after) =
      (p.elements (upper ++ header :: after)).map (Element.moved upper.length attrs.length) := by
    refine elements_insert hplace (confirm_eq_none_of_builtin hp hpascal)
      (fun a ha => code?_of_isAttributeLine (hattrs a ha))
      (fun e he => Element.moved_of_le he _) fun near line below hlower => ?_
    rw [classify?_insert_attributes hdocs hplace hattributes hattrs hheader hlower]
    refine Option.map_congr fun e he => (Element.moved_of_lt ?_ _).symm
    obtain ⟨_, _, _, _, _, _, helement⟩ := exists_of_classify? he
    have hline := (declares_of_elementOf? helement).line
    simp only [List.length_append, List.length_reverse] at hline
    omega
  rw [hinsert, List.map_map]
  refine ((List.map_congr_left fun e _ => ?_).trans (List.map_id _)).symm
  exact Element.moved_neg_moved _ _ e

/-- Two lines of attributes between a comment and a function of Rust, with a function above and one
below. -/
theorem elements_delete_attributes_rust :
    Language.rust ∈ Language.builtin ∧ Language.rust.attributes.isSome = true ∧
      Language.rust.docPlacement = .before ∧
      (∀ a ∈ (["#[inline]", "  #[cfg(test)] #[must_use]"] : List Text),
        Language.rust.isAttributeLine a = true) ∧
      (Language.rust.elementAt?
        ["fn first() \x7b\x7d", "/// Two.", "#[inline]", "  #[cfg(test)] #[must_use]",
          "fn second() \x7b\x7d", "/// Three.", "fn third() \x7b\x7d"] 4).isSome = true ∧
      Language.rust.elements
          ["fn first() \x7b\x7d", "/// Two.", "fn second() \x7b\x7d", "/// Three.",
            "fn third() \x7b\x7d"] =
        (Language.rust.elements
          ["fn first() \x7b\x7d", "/// Two.", "#[inline]", "  #[cfg(test)] #[must_use]",
            "fn second() \x7b\x7d", "/// Three.", "fn third() \x7b\x7d"]).map
          (Element.moved 2 (-2)) := by
  have hrust : Language.rust ∈ Language.builtin := by simp [Language.builtin]
  have hattrs : ∀ a ∈ (["#[inline]", "  #[cfg(test)] #[must_use]"] : List Text),
      Language.rust.isAttributeLine a = true := by
    decide +kernel
  have hheader : (Language.rust.elementAt?
      ["fn first() \x7b\x7d", "/// Two.", "#[inline]", "  #[cfg(test)] #[must_use]",
        "fn second() \x7b\x7d", "/// Three.", "fn third() \x7b\x7d"] 4).isSome = true := by
    decide +kernel
  exact ⟨hrust, rfl, rfl, hattrs, hheader,
    elements_delete_attributes hrust rfl rfl ["fn first() \x7b\x7d", "/// Two."] hattrs
      "fn second() \x7b\x7d" ["/// Three.", "fn third() \x7b\x7d"] hheader⟩

end DeclIndex.Profile
