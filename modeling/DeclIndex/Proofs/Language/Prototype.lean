import DeclIndex.Language.C
import DeclIndex.Language.Cpp
import DeclIndex.Language.D
import DeclIndex.Language.Java
import DeclIndex.Proofs.Pattern.TakesOnly
import DeclIndex.Proofs.Profile.OneLine

/-!
# Prototypes and calls

In C, C++, D and Java a function is recognized by its name and an opening parenthesis. So are
prototypes and calls, but these end with a semicolon. Every rule for functions of these languages
looks ahead from the parenthesis to the end of the line and refuses a line that ends so.

The rules leave much open: which word is the name, which parenthesis opens the parameters. The check
stands at the end of the pattern, so that each way through the pattern meets it, and from whichever
parenthesis it is made, the semicolon at the end of the line is in sight.

## Main definitions

* `Rule.RefusesPrototypes` — a rule whose pattern ends with the check.

## Main results

* `Language.outline_refuses_prototypes` — no function stands on a line that ends with a semicolon.
-/

namespace DeclIndex

open Pattern Pattern.Expr

namespace Language

/-! ## The check -/

/-- In a line that ends with a semicolon the semicolon is found. The loop before it takes all
characters and gives back the last one. -/
lemma first_semicolonAtEnd {w : Text} (hw : '\n' ∉ w) (before : Text) (groups : List (Nat × Span)) :
    (Expr.seq [rest, ";", gap0, stop]).First false (.between before (w ++ [';']) groups)
      (.between (before ++ w ++ [';']) [] groups) := by
  have hany : ∀ c ∈ w, (false || c != '\n') = true := by
    intro c hc
    rw [Bool.false_or, bne_iff_ne]
    rintro rfl
    exact hw hc
  have hsemicolon : (";" : Expr).First false (.between (before ++ w) [';'] groups)
      (.between (before ++ w ++ [';']) [] groups) := consumes_word ";" [] _ groups
  have hgap0 : gap0.First false (.between (before ++ w ++ [';']) [] groups)
      (.between (before ++ w ++ [';']) [] groups) := first_many_of_isStuck (isStuck_set rfl)
  refine first_many_giveBack ((isOne_any false).iterates hany before) (fun n u hu => ?_)
    (hsemicolon.seq (hgap0.seq (first_anchor rfl).seq_one))
  obtain ⟨x, y, hxy, hx, rfl⟩ := (isOne_any false).exists_of_iterates (v := [';']) rfl hu
  obtain ⟨c, x, rfl⟩ := List.exists_cons_of_length_eq_add_one hx
  obtain rfl : y = [] := (List.append_eq_nil_iff.mp (List.cons.inj hxy).2.symm).2
  exact (isStuck_char rfl).seq _

/-- The check does not hold before a text that ends with a semicolon. -/
lemma isStuck_noPrototype {s : State} {w : Text} (hw : '\n' ∉ w) (hs : s.rest = w ++ [';']) :
    noPrototype.IsStuck false s := by
  have hfirst := first_semicolonAtEnd hw s.passed.reverse s.groups
  rw [← hs, State.between, List.reverse_reverse] at hfirst
  exact hfirst.isStuck_notAhead

end Language

/-- A rule whose pattern ends with an opening parenthesis and the check for prototypes. -/
def Rule.RefusesPrototypes (r : Rule) : Prop :=
  r.pattern.fold = false ∧
    ∃ parts, r.pattern.body = .seq (parts ++ [Expr.char '(', Language.noPrototype])

/-- **Such a rule finds nothing in a line that ends with a semicolon.**

**Proof sketch.** A match comes past a parenthesis of the line and goes on with the check. The
semicolon stands after the parenthesis, so that the check does not hold there. -/
lemma Rule.RefusesPrototypes.find?_eq_none {r : Rule} (hr : r.RefusesPrototypes) {line : Text}
    (hline : Text.IsLine line) (hend : [';'] <:+ line) : r.pattern.find? line = none := by
  obtain ⟨hfold, parts, hbody⟩ := hr
  rw [Option.eq_none_iff_forall_ne_some]
  intro found hfound
  obtain ⟨before, s, t, rfl, ht⟩ := exists_takes_after_char hbody hfold hfound
  obtain ⟨w, hw⟩ : ∃ w, s.rest = w ++ [';'] := by
    rcases List.eq_nil_or_concat s.rest with hnil | ⟨w, c, hconcat⟩
    · rw [hnil] at hend
      exact absurd (List.singleton_suffix_iff_getLast?_eq_some.mp hend) (by simp)
    · rw [List.concat_eq_append] at hconcat
      rw [hconcat] at hend
      have hlast := List.singleton_suffix_iff_getLast?_eq_some.mp hend
      have hc : c = ';' := by simpa [List.getLast?_cons] using hlast
      exact ⟨w, by rw [hconcat, hc]⟩
  refine Language.isStuck_noPrototype (fun hmem => ?_) hw t ht
  have hbreak := hline '\n' (by rw [hw]; simp [hmem])
  exact absurd hbreak (by decide)

namespace Language

variable {p : Profile}

/-! ## The rules for functions -/

/-- The rule for functions that begin with their type ends with the check. -/
lemma refusesPrototypes_typedCallable : typedCallable.RefusesPrototypes :=
  ⟨rfl, (typedHeader noPrototype).take 7, rfl⟩

/-- In these languages every rule for functions ends with the check. -/
lemma refusesPrototypes_of_isCallable (hp : p ∈ [c, cpp, java, d]) :
    ∀ r ∈ p.rules, r.kind.isCallable = true → r.RefusesPrototypes := by
  intro r hr hk
  simp only [List.mem_cons, List.not_mem_nil, or_false] at hp
  rcases hp with rfl | rfl | rfl | rfl
  · simp only [c, List.mem_cons, List.not_mem_nil, or_false] at hr
    rcases hr with rfl | rfl | rfl
    · exact absurd hk (by decide)
    · exact refusesPrototypes_typedCallable
    · exact absurd hk (by decide)
  · simp only [cpp, List.mem_cons, List.not_mem_nil, or_false] at hr
    rcases hr with rfl | rfl | rfl | rfl | rfl | rfl
    · exact absurd hk (by decide)
    · exact absurd hk (by decide)
    · exact ⟨rfl, [start, receiver (seq [letter, many wordChar, optAngles]), "::",
        name (seq [opt ["~"], letter, many wordChar]), gap0], rfl⟩
    · exact refusesPrototypes_typedCallable
    · exact absurd hk (by decide)
    · exact absurd hk (by decide)
  · simp only [java, List.mem_cons, List.not_mem_nil, or_false] at hr
    rcases hr with rfl | rfl | rfl | rfl
    · exact absurd hk (by decide)
    · exact absurd hk (by decide)
    · exact refusesPrototypes_typedCallable
    · exact absurd hk (by decide)
  · simp only [d, List.mem_cons, List.not_mem_nil, or_false] at hr
    rcases hr with rfl | rfl | rfl | rfl | rfl
    · exact absurd hk (by decide)
    · exact absurd hk (by decide)
    · exact ⟨rfl, [start, name (seq [opt ["~"], "this"]), gap0], rfl⟩
    · exact refusesPrototypes_typedCallable
    · exact absurd hk (by decide)

/-- A declaration can be called only if its rule is for functions. -/
lemma isCallable_of_kindOf {k : Kind} {line receiver : Text}
    (h : (p.kindOf k line receiver).isCallable = true) : k.isCallable = true := by
  unfold Profile.kindOf at h
  split at h
  · rename_i hk
    rw [Bool.and_eq_true, decide_eq_true_eq] at hk
    rw [hk.1]
    rfl
  · exact h

/-- The code of a line that ends with a semicolon ends with it. -/
lemma suffix_semicolon_of_code? {line code : Text} (hcode : p.code? line = some code)
    (hend : [';'] <:+ Text.trim line) : [';'] <:+ code := by
  obtain ⟨_, rfl, hne, _⟩ := Profile.code?_eq_some hcode
  refine List.suffix_of_suffix_length_le hend (p.stripAttributes_isSuffix _) ?_
  exact List.length_pos_iff.mpr hne

/-- **No function stands on a line that ends with a semicolon**, whatever the text: of C, C++, Java
and D prototypes and calls are passed over.

**Proof sketch.** An element comes from a match in the code of its line, and one that can be called
from a match of a rule for functions. The code is an end of the trimmed line and not empty, so that
it ends with the semicolon too, and the rules for functions find nothing in such a text. -/
theorem outline_refuses_prototypes (hp : p ∈ [c, cpp, java, d]) (path content : Text) :
    ∀ e ∈ (p.outline path content).elements, e.kind.isCallable = true →
      ∃ line, (Text.splitLines content)[(e.line - 1).toNat]? = some line ∧
        (Text.trim line).endsWith ";" = false := by
  intro e he hcallable
  obtain ⟨site, hsite, hmem, hclassify⟩ := Profile.exists_site_of_mem_elements he
  obtain ⟨code, hcode, rule, hrule, found, hfound, helement⟩ := Profile.exists_of_classify? hclassify
  have hdeclares := Profile.declares_of_elementOf? helement
  rw [hdeclares.kind] at hcallable
  have hrefuses := refusesPrototypes_of_isCallable hp rule hrule (isCallable_of_kindOf hcallable)
  refine ⟨site.line, hsite, Bool.eq_false_iff.mpr fun hends => ?_⟩
  have hline := Profile.isLine_code hcode (Text.isLine_of_mem_splitLines _ hmem)
  have hend := suffix_semicolon_of_code? hcode (List.isSuffixOf_iff_suffix.mp hends)
  rw [hrefuses.find?_eq_none hline hend] at hfound
  exact absurd hfound (by simp)

/-- Of a prototype and a definition in C++ the definition is listed, and its line ends with a
brace. -/
theorem outline_refuses_prototypes_definition :
    cpp ∈ [c, cpp, java, d] ∧
    ∃ e ∈ (cpp.outline "a.cpp" "int Box::size();\nint Box::size() \x7b\n").elements,
      e.name = "size" ∧ e.kind.isCallable = true ∧
      ∃ line, (Text.splitLines "int Box::size();\nint Box::size() \x7b\n")[(e.line - 1).toNat]? =
        some line ∧ (Text.trim line).endsWith ";" = false := by
  have hp : cpp ∈ [c, cpp, java, d] := by simp
  obtain ⟨e, he, hname, hcallable⟩ :
      ∃ e ∈ (cpp.outline "a.cpp" "int Box::size();\nint Box::size() \x7b\n").elements,
        e.name = "size" ∧ e.kind.isCallable = true := by
    decide +kernel
  exact ⟨hp, e, he, hname, hcallable,
    outline_refuses_prototypes hp "a.cpp" "int Box::size();\nint Box::size() \x7b\n" e he hcallable⟩

end Language

end DeclIndex
