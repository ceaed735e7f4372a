import DeclIndex.Language.Lua
import DeclIndex.Language.Python
import DeclIndex.Proofs.Comment.Trimmed
import DeclIndex.Proofs.Profile.Site
import Mathlib.Data.List.Forall2

/-!
# Layout

Every line is read trimmed: for its code, for its comment, as a line of attributes or as the place of
a confirmation. Only the line that is classified is looked at once more as it stands, and then only
its first character counts: white space there makes a function a method, where indentation tells
them apart, and hides the line from rules for the top level. So white space at the ends of lines
makes no difference, but for whether a line is indented; and where no rule and no kind depends on
that, none at all.

## Main definitions

* `Text.DiffersInLayout` — two lines that differ in the white space at their ends only.
* `Profile.readsIndentation` — whether indentation can make a difference.
* `Profile.LooksAlike` — two places whose surroundings are read alike.

## Main results

* `Profile.classify?_of_looksAlike` — places that are read alike declare the same.
* `Profile.elementAt?_of_layout` — layout makes no difference.
-/

namespace DeclIndex

open Text

/-! ## Places that are read alike -/

/-- Two lines that differ in layout only: they are the same trimmed and, if they are not blank, both
are indented or neither is. -/
structure Text.DiffersInLayout (s t : Text) : Prop where
  trim : trim s = trim t
  indented : Text.trim s ≠ [] → isIndented s = isIndented t

namespace Profile

/-- Whether indentation can make a difference: to the kind of a declaration or to a rule. -/
def readsIndentation (p : Profile) : Bool :=
  p.methodDetection = .indent || p.rules.any fun rule => rule.topLevel

/-- Two places in texts that are read alike: the lines above and below are the same trimmed, and
both lines are indented or neither is, if that can make a difference. -/
structure LooksAlike (p : Profile) (s t : Site) : Prop where
  above : s.above.map trim = t.above.map trim
  below : s.below.map trim = t.below.map trim
  indented : p.readsIndentation = true → isIndented s.line = isIndented t.line

variable {p : Profile} {s t : Site}

/-- Equally many lines stand above two places that are read alike. -/
lemma LooksAlike.length_above (h : p.LooksAlike s t) : s.above.length = t.above.length := by
  simpa using congrArg List.length h.above

/-! ### Documentation -/

/-- A line of attributes is one trimmed. -/
lemma isAttributeLine_trim (line : Text) : p.isAttributeLine (trim line) = p.isAttributeLine line := by
  simp only [isAttributeLine, trim_trim]

/-- The lines above the attributes of a declaration, trimmed. -/
lemma aboveAttributes_trim (above : List Text) :
    p.aboveAttributes (above.map trim) = (p.aboveAttributes above).map trim :=
  aboveAttributes_map isAttributeLine_trim above

/-- The documentation of a declaration is read off trimmed lines. -/
lemma documentation_trim (s : Site) (k : Kind) :
    p.documentation ⟨s.above.map trim, s.line, s.below.map trim⟩ k = p.documentation s k := by
  simp only [documentation, aboveAttributes_trim, Comment.above_trim, Comment.below_trim]

/-- Places that are read alike have the same documentation. -/
lemma LooksAlike.documentation (h : p.LooksAlike s t) (k : Kind) :
    p.documentation s k = p.documentation t k := by
  rw [← documentation_trim s, ← documentation_trim t, h.above, h.below]
  rfl

/-! ### Rules -/

/-- The confirmation of a match is the same at places that are read alike. -/
lemma LooksAlike.confirmation? (h : p.LooksAlike s t) (confirm : Pattern) (lookahead : Nat)
    (tail : Text) : p.confirmation? confirm lookahead tail s.below =
      p.confirmation? confirm lookahead tail t.below := by
  unfold Profile.confirmation?
  rw [List.map_take, List.map_take, h.below]

/-- A declaration has the same kind at places that are read alike. -/
lemma LooksAlike.kindOf (h : p.LooksAlike s t) (k : Kind) (receiver : Text) :
    p.kindOf k s.line receiver = p.kindOf k t.line receiver := by
  unfold Profile.kindOf
  by_cases hindent : p.methodDetection = .indent
  · rw [h.indented (by simp [readsIndentation, hindent])]
  · simp [hindent]

/-- A match declares the same at places that are read alike. -/
lemma LooksAlike.elementOf? (h : p.LooksAlike s t) (rule : Rule) (found : Pattern.Found)
    (line : Text) : p.elementOf? rule found s line = p.elementOf? rule found t line := by
  unfold Profile.elementOf?
  simp only [h.kindOf, h.documentation, h.length_above, h.confirmation?]

/-- The rules declare the same at places that are read alike. -/
lemma LooksAlike.applyRules (h : p.LooksAlike s t) (line : Text) {rules : List Rule}
    (hrules : ∀ rule ∈ rules, rule ∈ p.rules) :
    p.applyRules s line rules = p.applyRules t line rules := by
  induction rules with
  | nil => rfl
  | cons rule rules ih =>
    have htail := ih fun r hr => hrules r (List.mem_cons_of_mem _ hr)
    have hskip : (rule.topLevel && isIndented s.line) = (rule.topLevel && isIndented t.line) := by
      cases htop : rule.topLevel with
      | false => rfl
      | true =>
        have hany : p.rules.any (fun rule => rule.topLevel) = true :=
          List.any_eq_true.mpr ⟨rule, hrules rule List.mem_cons_self, htop⟩
        rw [h.indented (by simp [readsIndentation, hany])]
    rw [Profile.applyRules, Profile.applyRules, hskip, htail]
    simp only [h.elementOf?]

/-- The code of a line is read off the trimmed line. -/
lemma code?_trim (line : Text) : p.code? (trim line) = p.code? line := by
  simp only [code?, trim_trim]

/-- **Places that are read alike declare the same**: their lines are the same trimmed, and if they
are not blank, the places look alike.

**Proof sketch.** A blank line declares nothing. The code of any other line is read off the trimmed
line, and all that the rules and the documentation take from the place is the same. -/
lemma classify?_of_looksAlike (hline : trim s.line = trim t.line)
    (h : trim s.line ≠ [] → p.LooksAlike s t) : p.classify? s = p.classify? t := by
  have hcode : p.code? s.line = p.code? t.line := by
    rw [← code?_trim, hline, code?_trim]
  unfold classify?
  rw [← hcode]
  cases hsome : p.code? s.line with
  | none => rfl
  | some code =>
    obtain ⟨hnoCode, _⟩ := code?_eq_some hsome
    have hne : trim s.line ≠ [] := by
      rintro hnil
      simp [isNoCode, hnil] at hnoCode
    exact (h hne).applyRules code fun _ hrule => hrule

/-! ### Texts -/

/-- Lines that are the same trimmed declare the same, index by index, if those that are not blank
are indented alike where that can make a difference. -/
lemma elementAt?_of_map_trim {lines lines' : List Text} (h : lines.map trim = lines'.map trim)
    {i : Nat} (hindent : p.readsIndentation = true → ∀ line line', lines[i]? = some line →
      lines'[i]? = some line' → trim line ≠ [] → isIndented line = isIndented line') :
    p.elementAt? lines i = p.elementAt? lines' i := by
  have hget : lines[i]?.map trim = lines'[i]?.map trim := by
    rw [← List.getElem?_map, h, List.getElem?_map]
  rw [elementAt?_eq_bind, elementAt?_eq_bind]
  cases hline : lines[i]? with
  | none =>
    rw [hline, Option.map_none, eq_comm, Option.map_eq_none_iff] at hget
    rw [hget]
    rfl
  | some line =>
    rw [hline, Option.map_some, eq_comm, Option.map_eq_some_iff] at hget
    obtain ⟨line', hline', htrim⟩ := hget
    rw [hline']
    refine classify?_of_looksAlike htrim.symm fun hne => ⟨?_, ?_, fun hreads => ?_⟩
    · rw [List.map_reverse, List.map_take, h, ← List.map_take, ← List.map_reverse]
    · rw [List.map_drop, h, ← List.map_drop]
    · exact hindent hreads line line' hline hline' hne

/-- **Layout makes no difference.** Let two texts have equally many lines, each of which differs
from its counterpart in the white space at its ends only, where a line that is not blank is indented
if and only if its counterpart is. Then line by line they declare the same. In a language that does
not tell methods by indentation and has no rules for the top level, indentation makes no difference
either.

**Proof sketch.** Comments, lines of attributes and confirmations are read off trimmed lines, and so
is the code of a line. The first character of the line that is classified is looked at for the kind
of a function and for rules of the top level, and for nothing else
(`Profile.classify?_of_looksAlike`). -/
theorem elementAt?_of_layout (p : Profile) (lines lines' : List Text) :
    (List.Forall₂ Text.DiffersInLayout lines lines' →
      ∀ i, p.elementAt? lines i = p.elementAt? lines' i) ∧
    (p.methodDetection ≠ .indent → (∀ rule ∈ p.rules, rule.topLevel = false) →
      lines.map trim = lines'.map trim → ∀ i, p.elementAt? lines i = p.elementAt? lines' i) := by
  constructor
  · intro h i
    have htrim : lines.map trim = lines'.map trim := by
      rw [← List.forall₂_eq_eq_eq, List.forall₂_map_left_iff, List.forall₂_map_right_iff]
      exact h.imp fun _ _ hdiffers => hdiffers.trim
    refine elementAt?_of_map_trim htrim fun _ line line' hline hline' hne => ?_
    obtain ⟨hi, rfl⟩ := List.getElem?_eq_some_iff.mp hline
    obtain ⟨hi', rfl⟩ := List.getElem?_eq_some_iff.mp hline'
    exact (h.get hi hi').indented hne
  · intro hmethod htop htrim i
    refine elementAt?_of_map_trim htrim fun hreads => ?_
    have hnone : p.rules.any (fun rule => rule.topLevel) = false :=
      List.any_eq_false.mpr fun rule hrule => by simp [htop rule hrule]
    simp [readsIndentation, hmethod, hnone] at hreads

/-- A method of Python below a tab or below blanks, with its documentation string, and a function of
Lua, which may be indented or not. -/
theorem elementAt?_of_layout_python :
    List.Forall₂ Text.DiffersInLayout
      ["class A:", "", "\tdef f(self):", "\t\t\"\"\"One.\"\"\""]
      ["class A: ", "  ", "    def f(self): ", "        \"\"\"One.\"\"\" "] ∧
    Language.python.elementAt?
        ["class A:", "", "\tdef f(self):", "\t\t\"\"\"One.\"\"\""] 2 =
      Language.python.elementAt?
        ["class A: ", "  ", "    def f(self): ", "        \"\"\"One.\"\"\" "] 2 ∧
    Language.python.elementAt?
        ["class A:", "", "\tdef f(self):", "\t\t\"\"\"One.\"\"\""] 2 =
      some
        { kind := .method, name := "f", visibility := .pub, documentation := "One.", line := 3,
          keyword := "def" } ∧
    Language.lua.methodDetection ≠ .indent ∧
    (∀ rule ∈ Language.lua.rules, rule.topLevel = false) ∧
    ["-- One.".toList, "function f()".toList].map trim =
      ["  -- One.".toList, "\tfunction f() ".toList].map trim ∧
    Language.lua.elementAt? ["-- One.", "function f()"] 1 =
      Language.lua.elementAt? ["  -- One.", "\tfunction f() "] 1 := by
  have hdiffer : List.Forall₂ Text.DiffersInLayout
      ["class A:", "", "\tdef f(self):", "\t\t\"\"\"One.\"\"\""]
      ["class A: ", "  ", "    def f(self): ", "        \"\"\"One.\"\"\" "] :=
    .cons ⟨by decide, by decide⟩ (.cons ⟨by decide, by decide⟩ (.cons ⟨by decide, by decide⟩
      (.cons ⟨by decide, by decide⟩ .nil)))
  have hmethod : Language.lua.methodDetection ≠ .indent := by decide
  have htop : ∀ rule ∈ Language.lua.rules, rule.topLevel = false := by decide +kernel
  have htrim : ["-- One.".toList, "function f()".toList].map trim =
      ["  -- One.".toList, "\tfunction f() ".toList].map trim := by decide
  exact ⟨hdiffer, (elementAt?_of_layout _ _ _).1 hdiffer 2, by decide +kernel, hmethod, htop, htrim,
    (elementAt?_of_layout _ _ _).2 hmethod htop htrim 1⟩

end Profile

end DeclIndex
