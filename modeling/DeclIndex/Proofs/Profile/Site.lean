import DeclIndex.Profile.Classify
import Mathlib.Data.List.Basic
import Mathlib.Tactic.Common

/-!
# Lines by index

A line of a list, seen by its index: the lines above it are those before the index in reverse, those
below it are the rest. The elements of a list of lines are what its indices yield, in order, and an
element carries the number of its line.

What the classification of a line takes from the lines around it is the number of lines above, the
documentation and the lines below. Two places that agree in these yield the same element, up to the
number of the line.

## Main definitions

* `Profile.elementAt?` — what the line with a given index declares.
* `Element.shift` — an element some lines further down.
* `Profile.Declares` — what a match of a rule declares, field by field.

## Main results

* `Site.getElem?_follow` — the site with a given index.
* `Profile.elements_eq_filterMap_range` — the elements are what the indices yield.
* `Profile.declares_of_elementOf?` — an element is read off its match and its place.
* `Profile.line_of_elementAt?` — an element has the number of its line.
* `Profile.classify?_shift` — places that look alike yield the same, up to the line number.
* `Profile.classify?_of_above` — the lines below matter only to confirmations and to documentation
  that stands there.
-/

namespace DeclIndex

/-- What the line with a given index declares. -/
def Profile.elementAt? (p : Profile) (lines : List Text) (index : Nat) : Option Element :=
  (Site.ofIndex? lines index).bind p.classify?

/-- The same element, `n` lines further down. -/
def Element.shift (n : Nat) (e : Element) : Element :=
  { e with line := e.line + n }

/-! ## Sites -/

namespace Site

/-- A site for every line. -/
lemma length_follow (lines : List Text) : ∀ above, (follow above lines).length = lines.length := by
  induction lines with
  | nil => intro above; rfl
  | cons line below ih =>
    intro above
    rw [follow, List.length_cons, List.length_cons, ih]

/-- The site with a given index has the lines before the index above it and the rest below it. -/
lemma getElem?_follow (lines : List Text) :
    ∀ (above : List Text) (i : Nat), (follow above lines)[i]? =
      lines[i]?.map fun line => ⟨(lines.take i).reverse ++ above, line, lines.drop (i + 1)⟩ := by
  induction lines with
  | nil => intro above i; simp [follow]
  | cons line below ih =>
    intro above i
    cases i with
    | zero => simp [follow]
    | succ i => simp [follow, ih]

/-- The site with a given index, if there is such a line. -/
lemma ofIndex?_eq (lines : List Text) (i : Nat) :
    ofIndex? lines i =
      lines[i]?.map fun line => ⟨(lines.take i).reverse, line, lines.drop (i + 1)⟩ := by
  rw [ofIndex?, getElem?_follow]
  simp

end Site

namespace Profile

variable (p : Profile)

/-! ## Elements by index -/

/-- Going through a list is going through its indices. -/
private lemma filterMap_eq_filterMap_range {α β : Type} (f : α → Option β) (l : List α) :
    l.filterMap f = (List.range l.length).filterMap fun i => l[i]?.bind f := by
  induction l with
  | nil => rfl
  | cons a l ih =>
    rw [List.length_cons, List.range_succ_eq_map, List.filterMap_cons, List.filterMap_cons,
      List.filterMap_map, ih]
    rfl

/-- The elements of a list of lines are what its indices yield, in order. -/
lemma elements_eq_filterMap_range (lines : List Text) :
    p.elements lines = (List.range lines.length).filterMap (p.elementAt? lines) := by
  rw [elements, filterMap_eq_filterMap_range, Site.length_follow]
  rfl

/-- What the line with an index declares, between the lines above and below it. -/
lemma elementAt?_eq_bind (lines : List Text) (i : Nat) :
    p.elementAt? lines i = lines[i]?.bind fun line =>
      p.classify? ⟨(lines.take i).reverse, line, lines.drop (i + 1)⟩ := by
  rw [elementAt?, Site.ofIndex?_eq, Option.bind_map]
  rfl

/-- A line that is not there declares nothing. -/
lemma elementAt?_eq_none {lines : List Text} {i : Nat} (hi : lines.length ≤ i) :
    p.elementAt? lines i = none := by
  rw [elementAt?_eq_bind, List.getElem?_eq_none hi]
  rfl

/-- What a line of the second part of a text declares. -/
lemma elementAt?_append_right (upper lower : List Text) (j : Nat) :
    p.elementAt? (upper ++ lower) (upper.length + j) =
      lower[j]?.bind fun line =>
        p.classify? ⟨(lower.take j).reverse ++ upper.reverse, line, lower.drop (j + 1)⟩ := by
  rw [elementAt?_eq_bind, List.getElem?_append_right (by omega), Nat.add_sub_cancel_left,
    List.take_length_add_append, List.reverse_append, Nat.add_assoc, List.drop_length_add_append]

/-! ## What is taken from the lines around -/

variable {p}

/-- A map of lines that keeps which of them hold attributes can be put off until the attribute lines
are passed. -/
lemma aboveAttributes_map {f : Text → Text}
    (hline : ∀ line, p.isAttributeLine (f line) = p.isAttributeLine line) (above : List Text) :
    p.aboveAttributes (above.map f) = (p.aboveAttributes above).map f := by
  have hcomp : p.isAttributeLine ∘ f = p.isAttributeLine := funext hline
  unfold aboveAttributes
  rw [List.dropWhile_map, hcomp]
  split <;> rfl

/-- What a match declares, seen from two places that agree in the line, in the lines below and in
the documentation: the same, up to the number of the line. -/
lemma elementOf?_shift {n : Nat} {s t : Site} (hline : s.line = t.line)
    (hbelow : s.below = t.below) (habove : s.above.length = t.above.length + n)
    (hdoc : ∀ k, p.documentation s k = p.documentation t k) (rule : Rule) (found : Pattern.Found)
    (line : Text) :
    p.elementOf? rule found s line = (p.elementOf? rule found t line).map (Element.shift n) := by
  have hnumber : (s.above.length : Int) + 1 = (t.above.length : Int) + 1 + n := by
    omega
  unfold elementOf?
  simp only [hline, hbelow, hdoc, hnumber]
  split
  · rfl
  · cases rule.confirm with
    | none => rfl
    | some confirm =>
      simp only [Option.map_map]
      rfl

/-- The same of the first rule that applies. -/
lemma applyRules_shift {n : Nat} {s t : Site} (hline : s.line = t.line)
    (hbelow : s.below = t.below) (habove : s.above.length = t.above.length + n)
    (hdoc : ∀ k, p.documentation s k = p.documentation t k) (line : Text) (rules : List Rule) :
    p.applyRules s line rules = (p.applyRules t line rules).map (Element.shift n) := by
  induction rules with
  | nil => rfl
  | cons rule rules ih =>
    rw [applyRules, applyRules, hline]
    split
    · exact ih
    · cases rule.pattern.find? line with
      | some found => exact elementOf?_shift hline hbelow habove hdoc rule found line
      | none =>
        dsimp only
        split
        · rfl
        · exact ih

/-- Two places that agree in the line, in the lines below and in the documentation declare the same,
up to the number of the line. -/
lemma classify?_shift {n : Nat} {s t : Site} (hline : s.line = t.line) (hbelow : s.below = t.below)
    (habove : s.above.length = t.above.length + n)
    (hdoc : ∀ k, p.documentation s k = p.documentation t k) :
    p.classify? s = (p.classify? t).map (Element.shift n) := by
  unfold classify?
  rw [hline]
  cases p.code? t.line with
  | none => rfl
  | some line => exact applyRules_shift hline hbelow habove hdoc line p.rules

/-! ## What the lines below are for -/

/-- Documentation above a declaration is not looked for below. -/
lemma documentation_of_above (hplace : p.docPlacement = .before) {s t : Site}
    (habove : s.above = t.above) (k : Kind) : p.documentation s k = p.documentation t k := by
  simp only [documentation, hplace, habove]

/-- A match of a rule without confirmation declares the same whatever stands below. -/
lemma elementOf?_of_above (hplace : p.docPlacement = .before) {s t : Site}
    (hline : s.line = t.line) (habove : s.above = t.above) {rule : Rule}
    (hrule : rule.confirm = none) (found : Pattern.Found) (line : Text) :
    p.elementOf? rule found s line = p.elementOf? rule found t line := by
  have hdoc := documentation_of_above hplace habove
  unfold elementOf?
  simp only [hline, habove, hrule, hdoc]

/-- Without confirmations, and with the documentation above, a line declares the same whatever
stands below it. -/
lemma classify?_of_above (hplace : p.docPlacement = .before)
    (hrules : ∀ rule ∈ p.rules, rule.confirm = none) {s t : Site} (hline : s.line = t.line)
    (habove : s.above = t.above) : p.classify? s = p.classify? t := by
  have happly : ∀ line rules, (∀ rule ∈ rules, rule ∈ p.rules) →
      p.applyRules s line rules = p.applyRules t line rules := by
    intro line rules
    induction rules with
    | nil => intro _; rfl
    | cons rule rules ih =>
      intro hmem
      have hrule := hrules rule (hmem rule List.mem_cons_self)
      have htail := ih fun r hr => hmem r (List.mem_cons_of_mem _ hr)
      rw [applyRules, applyRules, hline, htail]
      split
      · rfl
      · cases rule.pattern.find? line with
        | some found => exact elementOf?_of_above hplace hline habove hrule found line
        | none => rfl
  unfold classify?
  rw [hline]
  cases p.code? t.line with
  | none => rfl
  | some line => exact happly line p.rules fun _ h => h

/-! ## Where an element comes from -/

/-- The code of a line is its trimmed text without attributes: neither blank nor a comment before
they are stripped, neither empty nor control flow after that. -/
lemma code?_eq_some {line code : Text} (h : p.code? line = some code) :
    p.isNoCode (Text.trim line) = false ∧ code = p.stripAttributes (Text.trim line) ∧
      code ≠ [] ∧ p.isControlFlow code = false := by
  unfold code? at h
  dsimp only at h
  split at h
  · simp at h
  · rename_i hcode
    split at h
    · simp at h
    · rename_i hflow
      simp only [Bool.or_eq_true, not_or, Bool.not_eq_true] at hflow
      cases h
      exact ⟨by simpa using hcode, rfl, by simpa using hflow.1, hflow.2⟩

/-- A line whose trimmed text without attributes is neither empty nor control flow is code. -/
lemma code?_of_stripAttributes {line code : Text} (hcode : p.isNoCode (Text.trim line) = false)
    (hstrip : p.stripAttributes (Text.trim line) = code) (hne : code ≠ [])
    (hflow : p.isControlFlow code = false) : p.code? line = some code := by
  have hempty : code.isEmpty = false := List.isEmpty_eq_false_iff.mpr hne
  rw [code?]
  dsimp only
  rw [hcode, hstrip, hempty, hflow]
  rfl

/-- An element comes from a match of one of the rules. -/
lemma exists_of_applyRules {site : Site} {line : Text} {rules : List Rule} {e : Element}
    (h : p.applyRules site line rules = some e) :
    ∃ rule ∈ rules, ∃ found, rule.pattern.find? line = some found ∧
      p.elementOf? rule found site line = some e := by
  induction rules with
  | nil => simp [applyRules] at h
  | cons rule rules ih =>
    rw [applyRules] at h
    split at h
    · obtain ⟨r, hr, hfound⟩ := ih h
      exact ⟨r, List.mem_cons_of_mem _ hr, hfound⟩
    · split at h
      · rename_i found hfound
        exact ⟨rule, List.mem_cons_self, found, hfound, h⟩
      · split at h
        · simp at h
        · obtain ⟨r, hr, hfound⟩ := ih h
          exact ⟨r, List.mem_cons_of_mem _ hr, hfound⟩

/-- **Where an element comes from**: its line is code, and a rule of the profile matches that
code. -/
lemma exists_of_classify? {site : Site} {e : Element} (h : p.classify? site = some e) :
    ∃ line, p.code? site.line = some line ∧ ∃ rule ∈ p.rules, ∃ found,
      rule.pattern.find? line = some found ∧ p.elementOf? rule found site line = some e := by
  obtain ⟨line, hcode, hline⟩ := Option.bind_eq_some_iff.mp h
  exact ⟨line, hcode, exists_of_applyRules hline⟩

/-- A text that a match gives for a group: the text of the group or, if the rule asks for a
confirmation, the text of the group of that name in the confirmation. -/
def IsGiven (p : Profile) (rule : Rule) (found : Pattern.Found) (site : Site) (code group t : Text) :
    Prop :=
  t = groupText rule.pattern found code group ∨
    ∃ confirm c, rule.confirm = some confirm ∧
      p.confirmation? confirm rule.lookahead (code.drop found.span.stop) site.below = some c ∧
      t = groupText confirm c.1 c.2 group

/-- What a match of a rule declares, field by field. -/
structure Declares (p : Profile) (rule : Rule) (found : Pattern.Found) (site : Site) (code : Text)
    (e : Element) : Prop where
  name : e.name = groupText rule.pattern found code "name"
  name_ne_nil : e.name ≠ []
  kind : e.kind = p.kindOf rule.kind site.line (groupText rule.pattern found code "receiver")
  visibility : e.visibility = p.visibility e.name (textBefore rule.pattern found code)
  parent : p.IsGiven rule found site code "parent" e.parent
  documentation : e.documentation = p.documentation site e.kind
  line : e.line = site.above.length + 1
  keyword : ∃ word, e.keyword = p.spelling word ∧ p.IsGiven rule found site code "keyword" word ∧
    (word = [] → p.isStatementWord e.name = false)

/-- **What a match declares**: an element whose fields are read off the match, the confirmation and
the place. -/
lemma declares_of_elementOf? {rule : Rule} {found : Pattern.Found} {site : Site} {line : Text}
    {e : Element} (h : p.elementOf? rule found site line = some e) :
    p.Declares rule found site line e := by
  unfold elementOf? at h
  dsimp only at h
  split at h
  · simp at h
  · rename_i hname
    simp only [Bool.or_eq_true, Bool.and_eq_true, List.isEmpty_iff, not_or, not_and,
      Bool.not_eq_true] at hname
    cases hconfirm : rule.confirm with
    | none =>
      rw [hconfirm] at h
      cases h
      exact ⟨rfl, hname.1, rfl, rfl, Or.inl rfl, rfl, rfl, _, rfl, Or.inl rfl, hname.2⟩
    | some confirm =>
      rw [hconfirm] at h
      obtain ⟨c, hc, rfl⟩ := Option.map_eq_some_iff.mp h
      have hgiven : ∀ group : Text, p.IsGiven rule found site line group
          (if (groupText confirm c.1 c.2 group).isEmpty then groupText rule.pattern found line group
            else groupText confirm c.1 c.2 group) := by
        intro group
        split
        · exact Or.inl rfl
        · exact Or.inr ⟨confirm, c, hconfirm, hc, rfl⟩
      refine ⟨rfl, hname.1, rfl, rfl, hgiven _, rfl, rfl, _, rfl, hgiven _, fun hword => ?_⟩
      apply hname.2
      split at hword
      · exact hword
      · rename_i hne
        exact absurd (List.isEmpty_iff.mpr hword) hne

/-- An element has the number of its line. -/
lemma line_of_elementAt? {lines : List Text} {i : Nat} {e : Element}
    (h : p.elementAt? lines i = some e) : e.line = i + 1 := by
  by_cases hi : i < lines.length
  · rw [elementAt?_eq_bind, List.getElem?_eq_getElem hi] at h
    obtain ⟨line, _, rule, _, found, _, he⟩ := exists_of_classify? h
    have hline := (declares_of_elementOf? he).line
    rwa [List.length_reverse, List.length_take_of_le (by omega)] at hline
  · rw [elementAt?_eq_none p (by omega)] at h
    simp at h

/-- The line of an element, with those above and below it. -/
lemma exists_site_of_elementAt? {lines : List Text} {i : Nat} {e : Element}
    (h : p.elementAt? lines i = some e) :
    ∃ before line after, lines = before ++ line :: after ∧ before.length = i ∧
      p.classify? ⟨before.reverse, line, after⟩ = some e := by
  have hi : i < lines.length := by
    by_contra hi
    rw [elementAt?_eq_none p (by omega)] at h
    simp at h
  rw [elementAt?_eq_bind, List.getElem?_eq_getElem hi] at h
  exact ⟨lines.take i, lines[i], lines.drop (i + 1), by simp,
    List.length_take_of_le (by omega), h⟩

/-- The elements of a list of lines, by index. -/
lemma mem_elements_iff {lines : List Text} {e : Element} :
    e ∈ p.elements lines ↔ ∃ i, p.elementAt? lines i = some e := by
  rw [elements_eq_filterMap_range, List.mem_filterMap]
  constructor
  · rintro ⟨i, _, hi⟩
    exact ⟨i, hi⟩
  · rintro ⟨i, hi⟩
    refine ⟨i, List.mem_range.mpr ?_, hi⟩
    by_contra hlen
    rw [elementAt?_eq_none p (by omega)] at hi
    simp at hi

/-- The line of an element of a list of lines. -/
lemma exists_site_of_mem_elements {lines : List Text} {e : Element} (h : e ∈ p.elements lines) :
    ∃ site, lines[(e.line - 1).toNat]? = some site.line ∧ site.line ∈ lines ∧
      p.classify? site = some e := by
  obtain ⟨i, hi⟩ := mem_elements_iff.mp h
  have hnumber := line_of_elementAt? hi
  obtain ⟨before, line, after, rfl, rfl, hsite⟩ := exists_site_of_elementAt? hi
  refine ⟨_, ?_, by simp, hsite⟩
  rw [hnumber, show (((before.length : Int) + 1 - 1).toNat) = before.length by omega]
  simp

/-- Of a list without repetitions one element is kept, if it is there. -/
private lemma filterMap_ite_of_nodup {β : Type} {l : List Nat} (hl : l.Nodup) (i : Nat)
    (b : Option β) :
    l.filterMap (fun j => if j = i then b else none) = if i ∈ l then b.toList else [] := by
  induction l with
  | nil => rfl
  | cons j l ih =>
    obtain ⟨hj, hl⟩ := List.nodup_cons.mp hl
    by_cases heq : j = i
    · subst heq
      rw [List.filterMap_cons, ih hl, if_pos rfl, if_neg hj, if_pos List.mem_cons_self]
      cases b with
      | none => rfl
      | some b => rfl
    · rw [List.filterMap_cons, ih hl, if_neg heq]
      simp only [List.mem_cons, Ne.symm heq, false_or]

/-- The elements with the number of a line are what the line declares. -/
lemma filter_elements_line (lines : List Text) (i : Nat) :
    (p.elements lines).filter (fun e => e.line = (i : Int) + 1) = (p.elementAt? lines i).toList := by
  have hline : ∀ j, (p.elementAt? lines j).filter (fun e => decide (e.line = (i : Int) + 1)) =
      if j = i then p.elementAt? lines i else none := by
    intro j
    cases he : p.elementAt? lines j with
    | none =>
      split
      · rename_i heq
        rw [← heq, he]
        rfl
      · rfl
    | some e =>
      have hnumber := line_of_elementAt? he
      by_cases heq : j = i
      · subst heq
        rw [if_pos rfl, he, Option.filter_some, if_pos (decide_eq_true hnumber)]
      · rw [if_neg heq, Option.filter_some, if_neg]
        rw [decide_eq_true_eq, hnumber]
        omega
  rw [elements_eq_filterMap_range, List.filter_filterMap]
  simp only [hline]
  rw [filterMap_ite_of_nodup List.nodup_range]
  split
  · rfl
  · rename_i hi
    rw [elementAt?_eq_none p (by simpa using hi)]
    rfl

/-- The elements of a line that is there are those that it declares. -/
lemma filter_elements_of_getElem? {lines : List Text} {i : Nat} {line : Text}
    (hline : lines[i]? = some line) :
    (p.elements lines).filter (fun e => e.line = (i : Int) + 1) =
      (p.classify? ⟨(lines.take i).reverse, line, lines.drop (i + 1)⟩).toList := by
  rw [filter_elements_line, elementAt?_eq_bind, hline]
  rfl

end Profile

end DeclIndex
