import DeclIndex.Language.Pascal
import DeclIndex.Proofs.Pattern.CaseBlind
import DeclIndex.Proofs.Profile.Site

/-!
# Languages in which case makes no difference

In a language without case, every pattern is run without regard to case, the markers of comments
have no letters and words are compared in lower case. Then the outline of a text does not depend on
the case of its ASCII letters: making all capitals small changes nothing in the elements but the
case of their names, supertypes and comments.

## Main definitions

* `Profile.isCaseBlind` — the check that a profile tells no case apart.
* `Element.asciiLower` — an element with the capitals of its texts made small.
* `Element.AgreesUpToCase` — two elements that differ in the case of their texts only.

## Main results

* `Profile.elements_asciiLower` — the elements of a text with its capitals made small.
* `Profile.outline_pascal_up_to_case` — outlines of Pascal texts that differ in case only.
-/

namespace DeclIndex

open Text

/-! ## Elements and sites -/

/-- An element with the capitals of its name, its supertype and its comment made small. -/
def Element.asciiLower (e : Element) : Element :=
  { e with
    name := Text.asciiLower e.name
    parent := Text.asciiLower e.parent
    documentation := Text.asciiLower e.documentation }

/-- Two elements of one kind, visibility, line and introducing word, the names, supertypes and
comments of which differ in the case of ASCII letters only. -/
structure Element.AgreesUpToCase (e f : Element) : Prop where
  kind : e.kind = f.kind
  visibility : e.visibility = f.visibility
  line : e.line = f.line
  keyword : e.keyword = f.keyword
  name : Text.asciiLower e.name = Text.asciiLower f.name
  parent : Text.asciiLower e.parent = Text.asciiLower f.parent
  documentation : Text.asciiLower e.documentation = Text.asciiLower f.documentation

/-- Elements that are the same with their capitals made small agree up to case. -/
lemma Element.agreesUpToCase_of_asciiLower_eq {e f : Element} (h : e.asciiLower = f.asciiLower) :
    e.AgreesUpToCase f where
  kind := (congrArg Element.kind h :)
  visibility := (congrArg Element.visibility h :)
  line := (congrArg Element.line h :)
  keyword := (congrArg Element.keyword h :)
  name := (congrArg Element.name h :)
  parent := (congrArg Element.parent h :)
  documentation := (congrArg Element.documentation h :)

/-- A line with the lines around it, all capitals made small. -/
def Site.asciiLower (s : Site) : Site :=
  ⟨s.above.map Text.asciiLower, Text.asciiLower s.line, s.below.map Text.asciiLower⟩

/-- The sites of lines with their capitals made small. -/
lemma Site.follow_asciiLower (lines : List Text) : ∀ above : List Text,
    Site.follow (above.map Text.asciiLower) (lines.map Text.asciiLower) =
      (Site.follow above lines).map Site.asciiLower := by
  induction lines with
  | nil => intro above; rfl
  | cons line below ih =>
    intro above
    have hbelow := ih (line :: above)
    rw [List.map_cons] at hbelow
    rw [List.map_cons, Site.follow, Site.follow, List.map_cons, hbelow]
    rfl

/-! ## Profiles -/

/-- Whether every pattern of a rule is run without regard to case. -/
def Rule.isCaseBlind (r : Rule) : Bool :=
  r.pattern.isCaseBlind && r.gate.all Pattern.isCaseBlind && r.confirm.all Pattern.isCaseBlind

namespace Profile

/-- Whether a profile tells no case apart: its patterns are run without regard to case, its markers
have no letters, and the spelling of a name says nothing. The comment of a declaration stands
above. -/
def isCaseBlind (p : Profile) : Bool :=
  p.fold && p.rules.all Rule.isCaseBlind && p.attributes.all Pattern.isCaseBlind &&
    p.commentMarkers.all isCaseless && p.docMarkers.all isCaseless && p.nameRule.isNone &&
    p.docPlacement == .before

/-- What the check of a profile establishes. -/
structure CaseBlind (p : Profile) : Prop where
  fold : p.fold = true
  rules : ∀ rule ∈ p.rules, rule.isCaseBlind = true
  attributes : ∀ one, p.attributes = some one → one.isCaseBlind = true
  comments : ∀ m ∈ p.commentMarkers, m.isCaseless = true
  docs : ∀ m ∈ p.docMarkers, m.isCaseless = true
  names : p.nameRule = none
  above : p.docPlacement = .before

variable {p : Profile}

/-- The check establishes what it says. -/
lemma caseBlind_of_isCaseBlind (h : p.isCaseBlind = true) : p.CaseBlind := by
  simp only [isCaseBlind, Bool.and_eq_true, List.all_eq_true, Option.all_eq_true,
    Option.isNone_iff_eq_none, beq_iff_eq] at h
  obtain ⟨⟨⟨⟨⟨⟨hfold, hrules⟩, hattributes⟩, hcomments⟩, hdocs⟩, hnames⟩, habove⟩ := h
  exact ⟨hfold, hrules, hattributes, hcomments, hdocs, hnames, habove⟩

/-! ## Before the rules -/

/-- A word is compared in lower case. -/
lemma spelling_asciiLower (hp : p.CaseBlind) (word : Text) :
    p.spelling (Text.asciiLower word) = p.spelling word := by
  simp only [spelling, hp.fold, if_true, lower_asciiLower]

/-- A control word is one in either case. -/
lemma isControlWord_asciiLower (hp : p.CaseBlind) (word : Text) :
    p.isControlWord (Text.asciiLower word) = p.isControlWord word := by
  simp only [isControlWord, spelling_asciiLower hp]

/-- A statement word is one in either case. -/
lemma isStatementWord_asciiLower (hp : p.CaseBlind) (word : Text) :
    p.isStatementWord (Text.asciiLower word) = p.isStatementWord word := by
  simp only [isStatementWord, spelling_asciiLower hp, isControlWord_asciiLower hp]

/-- Whole words are found in either case. -/
lemma occursIn_ofWords_asciiLower (hp : p.CaseBlind) (words : List Text) (line : Text) :
    ((Pattern.ofWords p.fold words).any fun m => m.occursIn (Text.asciiLower line)) =
      (Pattern.ofWords p.fold words).any fun m => m.occursIn line := by
  rw [hp.fold]
  cases hwords : Pattern.ofWords true words with
  | none => rfl
  | some m => exact Pattern.occursIn_asciiLower (Pattern.isCaseBlind_of_ofWords hwords) line

/-- The first word of a line. -/
lemma firstWord?_asciiLower (line : Text) :
    firstWord? (Text.asciiLower line) = (firstWord? line).map Text.asciiLower := by
  have hcloser : ∀ c : Char, isCloser c.toLower = isCloser c :=
    apply_toLower (by decide)
  unfold firstWord?
  rw [dropWhile_asciiLower hcloser]
  cases line.dropWhile isCloser with
  | nil => rfl
  | cons c rest =>
    dsimp only [asciiLower_cons]
    rw [isAsciiLetter_toLower, takeWhile_asciiLower isWord_toLower]
    split <;> rfl

/-- A line is control flow in either case. -/
lemma isControlFlow_asciiLower (hp : p.CaseBlind) (line : Text) :
    p.isControlFlow (Text.asciiLower line) = p.isControlFlow line := by
  unfold isControlFlow hasMarker
  rw [firstWord?_asciiLower, Option.any_map, occursIn_ofWords_asciiLower hp]
  simp only [isControlWord_asciiLower hp]

/-- A line is blank or a comment in either case. -/
lemma isNoCode_asciiLower (hp : p.CaseBlind) (line : Text) :
    p.isNoCode (Text.asciiLower line) = p.isNoCode line := by
  rw [isNoCode, isNoCode, isEmpty_asciiLower, Comment.isComment_asciiLower hp.comments]

/-- Attributes are stripped from a line in either case. -/
lemma stripAttributes_asciiLower (hp : p.CaseBlind) (line : Text) :
    p.stripAttributes (Text.asciiLower line) = Text.asciiLower (p.stripAttributes line) := by
  have hby : ∀ {one : Pattern}, one.isCaseBlind = true → ∀ (n : Nat) (line : Text),
      stripAttributesBy one n (Text.asciiLower line) =
        Text.asciiLower (stripAttributesBy one n line) := by
    intro one hone n
    induction n with
    | zero => intro line; rfl
    | succ n ih =>
      intro line
      rw [stripAttributesBy, stripAttributesBy, Pattern.matchStart?_asciiLower hone]
      cases one.matchStart? line with
      | none => rfl
      | some found =>
        dsimp only
        rw [isEmpty_asciiLower, ← asciiLower_drop, trimStart_asciiLower, ih]
        split <;> rfl
  unfold stripAttributes
  cases hattributes : p.attributes with
  | none => rfl
  | some one =>
    dsimp only
    rw [length_asciiLower, hby (hp.attributes one hattributes)]

/-- The code of a line. -/
lemma code?_asciiLower (hp : p.CaseBlind) (line : Text) :
    p.code? (Text.asciiLower line) = (p.code? line).map Text.asciiLower := by
  unfold code?
  dsimp only
  rw [trim_asciiLower, isNoCode_asciiLower hp, stripAttributes_asciiLower hp, isEmpty_asciiLower,
    isControlFlow_asciiLower hp]
  split
  · rfl
  · split <;> rfl

/-! ## Documentation -/

/-- A line holds attributes only in either case. -/
lemma isAttributeLine_asciiLower (hp : p.CaseBlind) (line : Text) :
    p.isAttributeLine (Text.asciiLower line) = p.isAttributeLine line := by
  unfold isAttributeLine
  dsimp only
  rw [trim_asciiLower, isNoCode_asciiLower hp, stripAttributes_asciiLower hp, isEmpty_asciiLower]

/-- The lines above a declaration and its attributes. -/
lemma aboveAttributes_asciiLower (hp : p.CaseBlind) (above : List Text) :
    p.aboveAttributes (above.map Text.asciiLower) =
      (p.aboveAttributes above).map Text.asciiLower :=
  aboveAttributes_map (isAttributeLine_asciiLower hp) above

/-- The comment of a declaration. -/
lemma documentation_asciiLower (hp : p.CaseBlind) (s : Site) (k : Kind) :
    p.documentation s.asciiLower k = Text.asciiLower (p.documentation s k) := by
  unfold documentation
  rw [hp.above]
  dsimp only [Site.asciiLower]
  rw [aboveAttributes_asciiLower hp, Comment.above_asciiLower hp.docs]

/-! ## The rules -/

/-- The text of a group. -/
lemma groupText_asciiLower (pattern : Pattern) (found : Pattern.Found) (line name : Text) :
    groupText pattern found (Text.asciiLower line) name =
      Text.asciiLower (groupText pattern found line name) := by
  unfold groupText
  rw [Pattern.textOf?_asciiLower]
  cases pattern.textOf? found line name with
  | none => rfl
  | some t => exact trim_asciiLower t

/-- The text before a declaration. -/
lemma textBefore_asciiLower (pattern : Pattern) (found : Pattern.Found) (line : Text) :
    textBefore pattern found (Text.asciiLower line) =
      Text.asciiLower (textBefore pattern found line) := by
  unfold textBefore
  split
  · exact (asciiLower_take _ _).symm
  · exact (asciiLower_take _ _).symm
  · rfl

/-- The visibility of a declaration. -/
lemma visibility_asciiLower (hp : p.CaseBlind) (name before : Text) :
    p.visibility (Text.asciiLower name) (Text.asciiLower before) = p.visibility name before := by
  unfold visibility
  simp only [occursIn_ofWords_asciiLower hp, hp.names]

/-- The kind of a declaration. -/
lemma kindOf_asciiLower (k : Kind) (line receiver : Text) :
    p.kindOf k (Text.asciiLower line) (Text.asciiLower receiver) = p.kindOf k line receiver := by
  unfold kindOf
  rw [isEmpty_asciiLower, isIndented_asciiLower]

/-- The place where a confirmation is looked for. -/
private lemma find?_code_asciiLower (hp : p.CaseBlind) (lines : List Text) :
    ((lines.map Text.asciiLower).map Text.trim).find? (fun line => !p.isNoCode line) =
      ((lines.map Text.trim).find? fun line => !p.isNoCode line).map Text.asciiLower := by
  have hcode : ((fun line => !p.isNoCode line) ∘ Text.trim) ∘ Text.asciiLower =
      (fun line => !p.isNoCode line) ∘ Text.trim := by
    funext line
    simp only [Function.comp_apply, trim_asciiLower, isNoCode_asciiLower hp]
  rw [List.find?_map, List.find?_map, List.find?_map, hcode, Option.map_map, Option.map_map]
  congr 1
  funext line
  exact trim_asciiLower line

/-- The confirmation of a match. -/
lemma confirmation?_asciiLower (hp : p.CaseBlind) {confirm : Pattern}
    (hconfirm : confirm.isCaseBlind = true) (n : Nat) (tail : Text) (below : List Text) :
    p.confirmation? confirm n (Text.asciiLower tail) (below.map Text.asciiLower) =
      (p.confirmation? confirm n tail below).map fun c => (c.1, Text.asciiLower c.2) := by
  have hplace : (if (Text.trim (Text.asciiLower tail)).isEmpty then
        (((below.map Text.asciiLower).take n).map Text.trim).find? fun line => !p.isNoCode line
      else some (Text.asciiLower tail)) =
      (if (Text.trim tail).isEmpty then
        ((below.take n).map Text.trim).find? fun line => !p.isNoCode line
      else some tail).map Text.asciiLower := by
    rw [trim_asciiLower, isEmpty_asciiLower, ← List.map_take, find?_code_asciiLower hp]
    split <;> rfl
  have hfind : ∀ t : Text, ((confirm.find? (Text.asciiLower t)).map fun found =>
      (found, Text.asciiLower t)) =
      ((confirm.find? t).map fun found => (found, t)).map fun c => (c.1, Text.asciiLower c.2) := by
    intro t
    rw [Pattern.find?_asciiLower hconfirm, Option.map_map]
    rfl
  unfold confirmation?
  dsimp only
  rw [hplace, Option.bind_map, Option.map_bind]
  congr 1
  funext t
  exact hfind t

/-- What a match declares. -/
lemma elementOf?_asciiLower (hp : p.CaseBlind) {rule : Rule} (hrule : rule.isCaseBlind = true)
    (found : Pattern.Found) (s : Site) (line : Text) :
    p.elementOf? rule found s.asciiLower (Text.asciiLower line) =
      (p.elementOf? rule found s line).map Element.asciiLower := by
  have hconfirm : ∀ c, rule.confirm = some c → c.isCaseBlind = true := by
    simp only [Rule.isCaseBlind, Bool.and_eq_true, Option.all_eq_true] at hrule
    exact hrule.2
  have hline : s.asciiLower.line = Text.asciiLower s.line := rfl
  have hbelow : s.asciiLower.below = s.below.map Text.asciiLower := rfl
  have habove : s.asciiLower.above.length = s.above.length := List.length_map _
  unfold elementOf?
  simp only [groupText_asciiLower, isEmpty_asciiLower, isStatementWord_asciiLower hp, hline, hbelow,
    habove, kindOf_asciiLower, textBefore_asciiLower, visibility_asciiLower hp,
    documentation_asciiLower hp, spelling_asciiLower hp, ← asciiLower_drop]
  split
  · rfl
  · cases hc : rule.confirm with
    | none => rfl
    | some confirm =>
      simp only [confirmation?_asciiLower hp (hconfirm confirm hc), Option.map_map]
      congr 1
      funext c
      simp only [Function.comp_apply, groupText_asciiLower, isEmpty_asciiLower, ← apply_ite,
        spelling_asciiLower hp]
      rfl

/-- What the first rule that applies declares. -/
lemma applyRules_asciiLower (hp : p.CaseBlind) (s : Site) (line : Text) {rules : List Rule}
    (hrules : ∀ rule ∈ rules, rule.isCaseBlind = true) :
    p.applyRules s.asciiLower (Text.asciiLower line) rules =
      (p.applyRules s line rules).map Element.asciiLower := by
  induction rules with
  | nil => rfl
  | cons rule rules ih =>
    have hrule := hrules rule List.mem_cons_self
    have htail := ih fun r hr => hrules r (List.mem_cons_of_mem _ hr)
    have hpattern : rule.pattern.isCaseBlind = true ∧ ∀ g, rule.gate = some g →
        g.isCaseBlind = true := by
      simp only [Rule.isCaseBlind, Bool.and_eq_true, Option.all_eq_true] at hrule
      exact hrule.1
    have hline : Text.isIndented s.asciiLower.line = Text.isIndented s.line :=
      isIndented_asciiLower s.line
    have happlies : rule.applies (Text.asciiLower line) = rule.applies line := by
      unfold Rule.applies
      cases hgate : rule.gate with
      | none => rfl
      | some gate => exact Pattern.occursIn_asciiLower (hpattern.2 gate hgate) line
    rw [applyRules, applyRules, hline, happlies, Pattern.find?_asciiLower hpattern.1, htail]
    split
    · rfl
    · cases rule.pattern.find? line with
      | some found => exact elementOf?_asciiLower hp hrule found s line
      | none =>
        dsimp only
        split <;> rfl

/-- **What a line declares** with all capitals made small. -/
lemma classify?_asciiLower (hp : p.CaseBlind) (s : Site) :
    p.classify? s.asciiLower = (p.classify? s).map Element.asciiLower := by
  have hcode : p.code? s.asciiLower.line = (p.code? s.line).map Text.asciiLower :=
    code?_asciiLower hp s.line
  unfold classify?
  rw [hcode]
  cases p.code? s.line with
  | none => rfl
  | some line => exact applyRules_asciiLower hp s line hp.rules

/-- **The elements of a text with its capitals made small** are those of the text, with the capitals
of their names, supertypes and comments made small. -/
theorem elements_asciiLower (hp : p.CaseBlind) (lines : List Text) :
    p.elements (lines.map Text.asciiLower) = (p.elements lines).map Element.asciiLower := by
  have hsites := Site.follow_asciiLower lines []
  rw [List.map_nil] at hsites
  have hclassify : p.classify? ∘ Site.asciiLower =
      fun s => (p.classify? s).map Element.asciiLower :=
    funext (classify?_asciiLower hp)
  rw [elements, elements, hsites, List.filterMap_map, hclassify, List.map_filterMap]

/-! ## Introducing words -/

/-- The introducing words of a language without case have no capital letters of ASCII. -/
lemma asciiLower_keyword (hfold : p.fold = true) {lines : List Text} {e : Element}
    (he : e ∈ p.elements lines) : Text.asciiLower e.keyword = e.keyword := by
  obtain ⟨i, hi⟩ := mem_elements_iff.mp he
  obtain ⟨before, line, after, _, _, hsite⟩ := exists_site_of_elementAt? hi
  obtain ⟨_, _, _, _, _, _, helement⟩ := exists_of_classify? hsite
  obtain ⟨word, hword, _⟩ := (declares_of_elementOf? helement).keyword
  rw [hword, spelling, if_pos hfold, asciiLower_lower]

/-! ## Texts that differ in case only -/

/-- Texts that are the same with their capitals made small have elements that agree. -/
lemma agreesUpToCase_of_asciiLower_eq (hp : p.CaseBlind) {t u : Text}
    (h : Text.asciiLower t = Text.asciiLower u) :
    List.Forall₂ Element.AgreesUpToCase (p.elements (splitLines t)) (p.elements (splitLines u)) := by
  have hsame : (p.elements (splitLines t)).map Element.asciiLower =
      (p.elements (splitLines u)).map Element.asciiLower := by
    rw [← elements_asciiLower hp, ← elements_asciiLower hp, ← splitLines_asciiLower,
      ← splitLines_asciiLower, h]
  rw [← List.forall₂_eq_eq_eq, List.forall₂_map_left_iff, List.forall₂_map_right_iff] at hsame
  exact hsame.imp fun _ _ => Element.agreesUpToCase_of_asciiLower_eq

/-- The profile of Pascal tells no case apart. -/
lemma caseBlind_pascal : Language.pascal.CaseBlind :=
  caseBlind_of_isCaseBlind (by decide +kernel)

/-- **Pascal is read without regard to case.** Let two texts be the same up to the case of ASCII
letters. Then their outlines hold equally many elements, which agree one by one in kind, visibility,
line and introducing word, and in name, supertype and comment up to the case of ASCII letters. The
introducing words are written small.

**Proof sketch.** The outline of a text with all capitals made small is the outline of the text with
the capitals of its names, supertypes and comments made small (`elements_asciiLower`): every pattern
of the profile is run without regard to case, so that it has its matches at the same places, control
words are compared in lower case, and the markers have no letters. Both texts become the same when
their capitals are made small. -/
theorem outline_pascal_up_to_case (path : Text) {t u : Text}
    (h : Text.asciiLower t = Text.asciiLower u) :
    List.Forall₂ Element.AgreesUpToCase (Language.pascal.outline path t).elements
      (Language.pascal.outline path u).elements ∧
    ∀ e ∈ (Language.pascal.outline path t).elements, Text.asciiLower e.keyword = e.keyword :=
  ⟨agreesUpToCase_of_asciiLower_eq caseBlind_pascal h,
    fun _ he => asciiLower_keyword caseBlind_pascal.fold he⟩

/-- A unit, a type whose body stands below and a method, in two spellings. -/
theorem outline_pascal_up_to_case_unit :
    Text.asciiLower "Unit Shapes;\ntype\n  TShape =\n  Class(TBase)\n// Area.\nProcedure tshape.Draw;" =
      Text.asciiLower
        "UNIT shapes;\nTYPE\n  tSHAPE =\n  CLASS(tbase)\n// area.\nPROCEDURE TShape.draw;" ∧
    List.Forall₂ Element.AgreesUpToCase
      (Language.pascal.outline "a.pas"
        "Unit Shapes;\ntype\n  TShape =\n  Class(TBase)\n// Area.\nProcedure tshape.Draw;").elements
      (Language.pascal.outline "a.pas"
        "UNIT shapes;\nTYPE\n  tSHAPE =\n  CLASS(tbase)\n// area.\nPROCEDURE TShape.draw;").elements ∧
    (Language.pascal.outline "a.pas"
      "Unit Shapes;\ntype\n  TShape =\n  Class(TBase)\n// Area.\nProcedure tshape.Draw;").elements.map
        (fun e => (e.kind, e.keyword)) =
      [(.module, "unit".toList), (.type, "class".toList), (.method, "procedure".toList)] := by
  have hsame : Text.asciiLower
      "Unit Shapes;\ntype\n  TShape =\n  Class(TBase)\n// Area.\nProcedure tshape.Draw;" =
      Text.asciiLower
        "UNIT shapes;\nTYPE\n  tSHAPE =\n  CLASS(tbase)\n// area.\nPROCEDURE TShape.draw;" := by
    decide +kernel
  exact ⟨hsame, (outline_pascal_up_to_case "a.pas" hsame).1, by decide +kernel⟩

end Profile

end DeclIndex
