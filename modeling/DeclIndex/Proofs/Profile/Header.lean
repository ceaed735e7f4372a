import DeclIndex.Proofs.Pattern.Consumes
import DeclIndex.Proofs.Profile.Attributes
import DeclIndex.Proofs.Profile.Site
import DeclIndex.Proofs.Text.Letter

/-!
# Headers of declarations

The header of a function or a type is a line of which everything up to the name is known: what stands
before the introducing word, this word, perhaps a receiver, and the name. What follows the name is
any text.

To show that a line with such a header declares the function, three things are needed. The line is
code: it opens with a word that is no control word. The rules before the one for functions pass it
over: their gates, or their patterns if they have none, cannot begin like the header. The rule for
functions reads the header: its pieces take those of the line.

## Main definitions

* `Header` — the pieces of a header.
* `Header.declaration` — what a header declares, `Header.element` if it is a function.
* `Rule.Reads` — a rule that finds the pieces of a header in their groups.
* `Rule.Passes` — a rule that leaves a line to those after it.

## Main results

* `Profile.code?_of_opensWith` — a line that opens with a word is code.
* `Profile.applyRules_eq_declaration` — the declaration is what the rules make of the line.
* `Profile.classify?_eq_declaration`, `Profile.classify?_eq_element` — what a line with a header
  declares.
* `Rule.reads_of_consumes` — a rule whose pieces take those of the header reads it.
-/

namespace DeclIndex

open Pattern

/-! ## Headers -/

/-- The header of a declaration in a line: what stands before the introducing word, this word, what
stands between it and the receiver, the receiver if there is one, what stands between it and the
name, the name, and the rest of the line. -/
structure Header where
  before : Text := []
  keyword : Text
  gap : Text := [' ']
  receiver : Text := []
  link : Text := []
  name : Text
  rest : Text
  deriving DecidableEq, Repr

namespace Header

/-- What stands before the name. -/
def upToName (h : Header) : Text :=
  h.before ++ h.keyword ++ h.gap ++ h.receiver ++ h.link

/-- The line. -/
def text (h : Header) : Text :=
  h.before ++ (h.keyword ++ (h.gap ++ (h.receiver ++ (h.link ++ (h.name ++ h.rest)))))

/-- The line from the introducing word on. -/
def fromKeyword (h : Header) : Text :=
  h.keyword ++ (h.gap ++ (h.receiver ++ (h.link ++ (h.name ++ h.rest))))

lemma text_eq_before (h : Header) : h.text = h.before ++ h.fromKeyword := rfl

lemma text_eq (h : Header) : h.text = h.upToName ++ (h.name ++ h.rest) := by
  simp [text, upToName]

/-- The introducing word, the name and the receiver, where there is one, hold no white space, and
neither the introducing word nor the name is empty. -/
structure IsSolid (h : Header) : Prop where
  keyword : h.keyword.isSolid = true
  name : h.name.isSolid = true
  receiver : h.receiver = [] ∨ h.receiver.isSolid = true

/-- The group of the receiver, if there is one. -/
def receiverGroup (h : Header) : List (Nat × Span) :=
  if h.receiver.isEmpty then [] else [(4, .after (h.before ++ h.keyword ++ h.gap) h.receiver)]

/-- The groups that a rule finds in a header, the latest first. -/
def groups (h : Header) : List (Nat × Span) :=
  (2, .after h.upToName h.name) :: (h.receiverGroup ++ [(1, .after h.before h.keyword)])

lemma lookup_groups_keyword (h : Header) :
    h.groups.lookup 1 = some (.after h.before h.keyword) := by
  rw [groups, receiverGroup]
  split <;> rfl

/-- The groups are for no supertype. -/
lemma lookup_groups_parent (h : Header) : h.groups.lookup 3 = none := by
  rw [groups, receiverGroup]
  split <;> rfl

lemma lookup_groups_receiver (h : Header) :
    h.groups.lookup 4 =
      if h.receiver.isEmpty then none
      else some (.after (h.before ++ h.keyword ++ h.gap) h.receiver) := by
  rw [groups, receiverGroup]
  split <;> rfl

/-- What a header declares, if it is the header of a declaration of a kind. -/
def declaration (h : Header) (k : Kind) (p : Profile) (site : Site) : Element :=
  let kind := p.kindOf k site.line h.receiver
  { kind := kind
    name := h.name
    visibility := p.visibility h.name h.before
    parent := []
    documentation := p.documentation site kind
    line := site.above.length + 1
    keyword := p.spelling h.keyword }

/-- The function that a header declares. -/
def element (h : Header) (p : Profile) (site : Site) : Element :=
  h.declaration .function p site

/-- A line that begins with white space and a header, trimmed. -/
lemma trim_text {h : Header} (hh : h.IsSolid) (hopen : h.text.head?.any Text.isBlank = false)
    {blank : Text} (hblank : ∀ c ∈ blank, Text.isBlank c = true) :
    Text.trim (blank ++ h.text) = { h with rest := Text.trimEnd h.rest }.text := by
  have hhead : (h.upToName ++ h.name).head?.any Text.isBlank = false := by
    rw [text_eq, ← List.append_assoc] at hopen
    obtain ⟨c, name, hname⟩ := List.exists_cons_of_ne_nil (Text.isSolid_iff.mp hh.name).1
    rw [hname] at hopen ⊢
    cases hbefore : h.upToName with
    | nil => rwa [hbefore] at hopen
    | cons d before => rwa [hbefore] at hopen
  rw [text_eq, text_eq, Text.trim_append hblank hhead hh.name]
  rfl

/-- A line that begins with a header, trimmed. -/
lemma trim_text_unindented {h : Header} (hh : h.IsSolid)
    (hopen : h.text.head?.any Text.isBlank = false) :
    Text.trim h.text = { h with rest := Text.trimEnd h.rest }.text := by
  have htrim : Text.trim ([] ++ h.text) = _ := trim_text hh hopen fun _ hc => nomatch hc
  exact htrim

end Header

/-! ## What a rule makes of a header -/

namespace Rule

/-- A rule that finds the pieces of a header in their groups. -/
def Reads (r : Rule) (h : Header) : Prop :=
  ∃ span, r.pattern.find? h.text = some ⟨span, h.groups⟩

/-- Whether a rule is for functions: it has groups for the introducing word and the name and perhaps
for a receiver, but not for a supertype, it asks for no confirmation and passes over no indented
line. -/
def isForFunctions (r : Rule) : Bool :=
  r.kind = .function && r.confirm.isNone && !r.topLevel &&
    r.pattern.group? "keyword" = some 1 && r.pattern.group? "name" = some 2 &&
    r.pattern.group? "parent" = none && (r.pattern.group? "receiver").all (· = 4)

/-- Whether a rule reads headers: it has groups for the introducing word and the name and perhaps
for a supertype and a receiver, it asks for no confirmation and passes over no indented line. -/
def isForHeaders (r : Rule) : Bool :=
  r.confirm.isNone && !r.topLevel && r.pattern.group? "keyword" = some 1 &&
    r.pattern.group? "name" = some 2 && (r.pattern.group? "parent").all (· = 3) &&
    (r.pattern.group? "receiver").all (· = 4)

/-- A rule for functions reads headers. -/
lemma isForHeaders_of_isForFunctions {r : Rule} (h : r.isForFunctions = true) :
    r.kind = .function ∧ r.isForHeaders = true := by
  simp only [isForFunctions, isForHeaders, Bool.and_eq_true, decide_eq_true_eq] at h ⊢
  obtain ⟨⟨⟨⟨⟨⟨hkind, hconfirm⟩, htop⟩, hkeyword⟩, hname⟩, hparent⟩, hreceiver⟩ := h
  exact ⟨hkind, ⟨⟨⟨⟨hconfirm, htop⟩, hkeyword⟩, hname⟩, by rw [hparent]; rfl⟩, hreceiver⟩

/-- A rule leaves a line to those after it: its gate does not let the line in, or it has none and
finds nothing. -/
def Passes (r : Rule) (line : Text) : Prop :=
  r.applies line = false ∨ (r.gate = none ∧ r.pattern.find? line = none)

/-- Whether a rule leaves all lines with a known beginning to those after it. -/
def neverClaims (r : Rule) (b : Beginning) : Bool :=
  match r.gate with
  | none => r.pattern.neverBegins b
  | some gate => gate.neverBegins b

lemma passes_of_neverClaims {r : Rule} {b : Beginning} (h : r.neverClaims b = true) {line : Text}
    (hline : b.Fits line) : r.Passes line := by
  rw [neverClaims] at h
  split at h
  · rename_i hgate
    exact Or.inr ⟨hgate, find?_eq_none_of_neverBegins h hline⟩
  · rename_i gate hgate
    refine Or.inl ?_
    rw [applies, hgate, Option.all_some, occursIn, find?_eq_none_of_neverBegins h hline]
    rfl

/-- A rule with an anchored gate that leads nowhere in a line leaves it to those after it. -/
lemma passes_of_stuckAt {r : Rule} {gate : Pattern} (hgate : r.gate = some gate)
    {parts : List Expr} (hbody : gate.body = .seq (Expr.start :: parts)) {line : Text}
    (h : (Expr.seq parts).StuckAt gate.fold line) : r.Passes line := by
  refine Or.inl ?_
  rw [applies, hgate, Option.all_some, occursIn, Option.isSome_eq_false_iff,
    find?_eq_none_of_stuckAt hbody h]
  rfl

end Rule

namespace Profile

variable {p : Profile} {h : Header}

/-- The text of a group whose span is known. -/
private lemma groupText_of_lookup {pattern : Pattern} {found : Found} {role : Text} {i : Nat}
    (hrole : pattern.group? role = some i) {before t rest : Text}
    (hspan : found.groups.lookup i = some (.after before t)) (ht : t.isSolid = true) :
    groupText pattern found (before ++ (t ++ rest)) role = t := by
  rw [groupText, textOf?, spanOf?, hrole, Option.bind_some, hspan, Option.map_some,
    Option.getD_some, Span.slice_after, Text.trim_of_isSolid ht]

/-- The text of a group that the pattern does not have or that has no part in the match. -/
private lemma groupText_of_absent {pattern : Pattern} {found : Found} {role : Text}
    (habsent : ∀ i ∈ pattern.group? role, found.groups.lookup i = none) (line : Text) :
    groupText pattern found line role = [] := by
  rw [groupText, textOf?, spanOf?]
  cases hrole : pattern.group? role with
  | none => rfl
  | some i => rw [Option.bind_some, habsent i hrole]; rfl

/-- The receiver is read off its group. A header without one can be read by a rule without the
group. -/
private lemma groupText_receiver (hh : h.IsSolid) {pattern : Pattern}
    (hgroup : ∀ i ∈ pattern.group? "receiver", i = 4)
    (hreceiver : h.receiver = [] ∨ (pattern.group? "receiver").isSome = true) (span : Span) :
    groupText pattern ⟨span, h.groups⟩ h.text "receiver" = h.receiver := by
  by_cases hnone : h.receiver = []
  · rw [hnone]
    refine groupText_of_absent (fun i hi => ?_) _
    rw [hgroup i hi, h.lookup_groups_receiver, hnone]
    rfl
  · obtain ⟨i, hi⟩ := Option.isSome_iff_exists.mp (hreceiver.resolve_left hnone)
    obtain rfl := hgroup i hi
    have htext : h.text = (h.before ++ h.keyword ++ h.gap) ++ (h.receiver ++ (h.link ++ (h.name ++
        h.rest))) := by simp [Header.text]
    have hspan : h.groups.lookup 4 = some (.after (h.before ++ h.keyword ++ h.gap) h.receiver) := by
      rw [h.lookup_groups_receiver, if_neg (by simpa using hnone)]
    rw [htext]
    exact groupText_of_lookup hi hspan (hh.receiver.resolve_left hnone)

/-- What is declared without a receiver at the start of a line is of the kind that the rule is for. -/
lemma kindOf_unindented (p : Profile) (k : Kind) {line : Text}
    (hline : line.head?.any Text.isBlank = false) : p.kindOf k line [] = k := by
  have hindent : Text.isIndented line = false := hline
  rw [kindOf, hindent]
  simp

/-- Where indentation counts a function in an indented line is a method. -/
lemma kindOf_indented (hp : p.methodDetection = .indent) {indent : Text}
    (hindent : ∀ c ∈ indent, Text.isBlank c = true) (hne : indent ≠ []) (line receiver : Text) :
    p.kindOf .function (indent ++ line) receiver = .method := by
  obtain ⟨c, indent, rfl⟩ := List.exists_cons_of_ne_nil hne
  have hindented : Text.isIndented (c :: indent ++ line) = true := hindent c List.mem_cons_self
  rw [kindOf, hindented, hp]
  simp

/-- **What a rule makes of a header that it reads**: a declaration of its kind. A rule without a
group for receivers reads only headers without one. -/
lemma elementOf?_of_groups (hh : h.IsSolid) {rule : Rule} (hrule : rule.isForHeaders = true)
    (hreceiver : h.receiver = [] ∨ (rule.pattern.group? "receiver").isSome = true) (span : Span)
    (site : Site) :
    p.elementOf? rule ⟨span, h.groups⟩ site h.text = some (h.declaration rule.kind p site) := by
  simp only [Rule.isForHeaders, Bool.and_eq_true, decide_eq_true_eq, Option.isNone_iff_eq_none,
    Option.all_eq_true] at hrule
  obtain ⟨⟨⟨⟨⟨hconfirm, _⟩, hkeyword⟩, hname⟩, hparent⟩, hgroup⟩ := hrule
  have hnameText : groupText rule.pattern ⟨span, h.groups⟩ h.text "name" = h.name := by
    rw [h.text_eq]
    exact groupText_of_lookup hname rfl hh.name
  have hkeywordText : groupText rule.pattern ⟨span, h.groups⟩ h.text "keyword" = h.keyword :=
    groupText_of_lookup hkeyword h.lookup_groups_keyword hh.keyword
  have hparentText : groupText rule.pattern ⟨span, h.groups⟩ h.text "parent" = [] :=
    groupText_of_absent (fun i hi => hparent i hi ▸ h.lookup_groups_parent) _
  have hreceiverText : groupText rule.pattern ⟨span, h.groups⟩ h.text "receiver" = h.receiver :=
    groupText_receiver hh hgroup hreceiver span
  have hbefore : textBefore rule.pattern ⟨span, h.groups⟩ h.text = h.before := by
    rw [textBefore, spanOf?, hkeyword, Option.bind_some, h.lookup_groups_keyword]
    exact Span.take_start_after _ _ _
  have hnameEmpty : h.name.isEmpty = false :=
    List.isEmpty_eq_false_iff.mpr (Text.isSolid_iff.mp hh.name).1
  have hkeywordEmpty : h.keyword.isEmpty = false :=
    List.isEmpty_eq_false_iff.mpr (Text.isSolid_iff.mp hh.keyword).1
  rw [elementOf?]
  simp only [hnameText, hkeywordText, hparentText, hreceiverText, hbefore, hnameEmpty,
    hkeywordEmpty, hconfirm, Bool.false_and, Bool.or_self, Bool.false_eq_true, if_false]
  rfl

/-! ## Visibility -/

/-- Whether one of the words that say who may use a declaration stands in a text. -/
def saysVisibility (p : Profile) (before : Text) (w : Text × Visibility) : Bool :=
  (ofWords p.fold [w.1]).any fun m => m.occursIn before

/-- The first word that is found counts. -/
lemma visibility_of_word {name before : Text} {w : Text × Visibility}
    (hword : p.visibilityWords.find? (p.saysVisibility before) = some w) :
    p.visibility name before = w.2 := by
  unfold saysVisibility at hword
  rw [visibility, hword]

/-- If no word is found and the name says nothing, the default counts. -/
lemma visibility_of_no_word {name before : Text}
    (hword : p.visibilityWords.find? (p.saysVisibility before) = none)
    (hname : ∀ rule, p.nameRule = some rule → rule name = .unspecified) :
    p.visibility name before = p.defaultVisibility := by
  unfold saysVisibility at hword
  rw [visibility, hword]
  cases hrule : p.nameRule with
  | none => rfl
  | some rule => exact if_pos (hname rule hrule)

/-! ## The rules before -/

/-- Rules that leave the line to those after them can be skipped. -/
lemma applyRules_append {skipped : List Rule} {line : Text}
    (hskipped : ∀ r ∈ skipped, r.Passes line) (site : Site) (rules : List Rule) :
    p.applyRules site line (skipped ++ rules) = p.applyRules site line rules := by
  induction skipped with
  | nil => rfl
  | cons r skipped ih =>
    have htail := ih fun r' hr' => hskipped r' (List.mem_cons_of_mem _ hr')
    rw [List.cons_append, applyRules]
    rcases hskipped r List.mem_cons_self with happlies | ⟨hgate, hfind⟩
    · rw [happlies, htail]
      simp
    · split
      · exact htail
      · rw [hfind, hgate]
        exact htail

/-- A rule that claims a line and finds nothing drops it, if the rules before leave it the line. -/
lemma applyRules_of_claimed {skipped : List Rule} {line : Text}
    (hskipped : ∀ r ∈ skipped, r.Passes line) {rule : Rule} (htop : rule.topLevel = false)
    (hgate : rule.gate.isSome = true) (happlies : rule.applies line = true)
    (hfind : rule.pattern.find? line = none) (site : Site) (rules : List Rule) :
    p.applyRules site line (skipped ++ rule :: rules) = none := by
  rw [applyRules_append hskipped, applyRules, htop, happlies, hfind, hgate]
  rfl

/-- **What the rules make of a header**: a declaration, if the rules before the one that reads it
leave it the line. -/
lemma applyRules_eq_declaration (hh : h.IsSolid) {skipped : List Rule}
    (hskipped : ∀ r ∈ skipped, r.Passes h.text) {rule : Rule} (hrule : rule.isForHeaders = true)
    (hreceiver : h.receiver = [] ∨ (rule.pattern.group? "receiver").isSome = true)
    (happlies : rule.applies h.text = true) (hreads : rule.Reads h) (site : Site)
    (rules : List Rule) :
    p.applyRules site h.text (skipped ++ rule :: rules) =
      some (h.declaration rule.kind p site) := by
  obtain ⟨span, hfind⟩ := hreads
  have htop : rule.topLevel = false := by
    simp only [Rule.isForHeaders, Bool.and_eq_true, Bool.not_eq_true'] at hrule
    exact hrule.1.1.1.1.2
  rw [applyRules_append hskipped, applyRules, htop, happlies, hfind]
  exact elementOf?_of_groups hh hrule hreceiver span site

/-- The same of the header of a function. -/
lemma applyRules_of_reads (hh : h.IsSolid) {skipped : List Rule}
    (hskipped : ∀ r ∈ skipped, r.Passes h.text) {rule : Rule} (hrule : rule.isForFunctions = true)
    (hreceiver : h.receiver = [] ∨ (rule.pattern.group? "receiver").isSome = true)
    (happlies : rule.applies h.text = true) (hreads : rule.Reads h) (site : Site)
    (rules : List Rule) :
    p.applyRules site h.text (skipped ++ rule :: rules) = some (h.element p site) := by
  obtain ⟨hkind, hheaders⟩ := Rule.isForHeaders_of_isForFunctions hrule
  rw [applyRules_eq_declaration hh hskipped hheaders hreceiver happlies hreads, hkind,
    Header.element]

/-- **What the rules make of a header if the first one may claim it**: nothing if its gate lets the
line in, since its pattern finds nothing, and otherwise the function that the header declares. -/
lemma applyRules_of_gated (hh : h.IsSolid) {first : Rule} (hfirst : first.topLevel = false)
    (hgate : first.gate.isSome = true) (hfind : first.pattern.find? h.text = none)
    {skipped : List Rule} (hskipped : ∀ r ∈ skipped, r.Passes h.text) {rule : Rule}
    (hrule : rule.isForFunctions = true)
    (hreceiver : h.receiver = [] ∨ (rule.pattern.group? "receiver").isSome = true)
    (happlies : rule.applies h.text = true) (hreads : rule.Reads h) (site : Site)
    (rules : List Rule) :
    p.applyRules site h.text (first :: (skipped ++ rule :: rules)) =
      if first.applies h.text then none else some (h.element p site) := by
  cases hclaims : first.applies h.text with
  | true =>
    have hnone : ∀ r ∈ ([] : List Rule), r.Passes h.text := List.forall_mem_nil _
    exact applyRules_of_claimed hnone hfirst hgate hclaims hfind site _
  | false =>
    have hpasses : ∀ r ∈ first :: skipped, r.Passes h.text :=
      List.forall_mem_cons.mpr ⟨Or.inl hclaims, hskipped⟩
    exact applyRules_of_reads hh hpasses hrule hreceiver happlies hreads site rules

/-! ## Lines that open with a word -/

/-- Whether comments and attributes of a language never begin with a letter. -/
def opensWithWords (p : Profile) : Bool :=
  p.commentMarkers.all (fun m => m.head?.any fun c => !Text.isAsciiLetter c) &&
    p.attributes.all fun one => one.body.ends one.fold [Text.asciiLetters] = some []

/-- A line that begins with a letter is no comment. -/
private lemma isComment_eq_false {markers : List Text}
    (hmarkers : ∀ m ∈ markers, m.head?.any (fun c => !Text.isAsciiLetter c) = true) {c : Char}
    (hc : Text.isAsciiLetter c = true) (rest : Text) :
    Comment.isComment markers (c :: rest) = false := by
  rw [Comment.isComment, List.any_eq_false]
  intro m hm hstarts
  have hhead := hmarkers m hm
  cases m with
  | nil => simp at hhead
  | cons d m =>
    rw [Text.startsWith, List.isPrefixOf, Bool.and_eq_true, beq_iff_eq] at hstarts
    rw [List.head?_cons, Option.any_some, hstarts.1, hc] at hhead
    simp at hhead

/-- A line that begins with a letter begins with no attribute. -/
private lemma isClear_of_letter (hp : p.opensWithWords = true) {c : Char}
    (hc : Text.isAsciiLetter c = true) (rest : Text) : p.IsClear (c :: rest) := by
  obtain ⟨_, hattributes⟩ := Bool.and_eq_true_iff.mp hp
  intro one hone found hfound
  have hfits : Beginning.Fits [Text.asciiLetters] (c :: rest) :=
    Beginning.fits_ofText_append (Text.mem_asciiLetters hc) [] rest
  rw [Option.mem_def.mp hone, Option.all_some, decide_eq_true_eq] at hattributes
  exact nomatch (matchStart?_eq_none_of_ends hattributes hfits).symm.trans hfound

/-- A line that begins with one attribute, a space and a letter, without the attribute. -/
lemma stripAttributes_of_first (hp : p.opensWithWords = true) {one : Pattern}
    (hone : p.attributes = some one) {w : Text} (hw : w ≠ []) {c : Char}
    (hc : Text.isAsciiLetter c = true) {rest : Text} {groups : List (Nat × Span)}
    (h : one.body.First one.fold (.between [] (w ++ ' ' :: c :: rest) [])
      (.between w (' ' :: c :: rest) groups)) :
    p.stripAttributes (w ++ ' ' :: c :: rest) = c :: rest := by
  have hbegins : p.IsAttributeOf (w ++ [' '] ++ ([] ++ c :: rest)) w := by
    have hstart := matchStart?_of_first h
    rw [State.position_between] at hstart
    rw [List.append_assoc]
    exact ⟨hw, one, hone, _, hstart, List.take_left⟩
  have hblank : ∀ d ∈ [' '], Text.isBlank d = true := List.forall_mem_singleton.mpr rfl
  have hletter : (c :: rest).head?.any Text.isBlank = false :=
    Text.isBlank_of_isWord (Text.isWord_of_isAsciiLetter hc)
  refine stripAttributes_eq_iff.mpr ⟨⟨w ++ [' '] ++ [], by simp, ?_⟩, isClear_of_letter hp hc rest⟩
  exact .cons hbegins hblank hletter .nil

/-- The first word of a line that begins with one. -/
lemma firstWord?_append {w : Text} (hw : w.isName [] = true) {rest : Text}
    (hrest : rest.head?.any Text.isWord = false) : firstWord? (w ++ rest) = some w := by
  obtain ⟨c, w, rfl, hc, hword⟩ := Text.exists_cons_of_isName hw
  have hc : Text.isAsciiLetter c = true := hc.resolve_right List.not_mem_nil
  have hword : ∀ d ∈ w, Text.isWord d = true :=
    fun d hd => (hword d hd).resolve_right List.not_mem_nil
  have hcloser : isCloser c = false := by
    have hblank := Text.isBlank_of_isWord (Text.isWord_of_isAsciiLetter hc)
    rw [isCloser, hblank, Bool.false_or]
    by_contra hmem
    have hall : "\x7b\x7d()[];,".toList.all (fun d => !Text.isAsciiLetter d) = true := by decide
    have hnot := List.all_eq_true.mp hall c (List.contains_iff_mem.mp (Bool.not_eq_false _ ▸ hmem))
    rw [hc] at hnot
    simp at hnot
  have htake : (w ++ rest).takeWhile Text.isWord = w := by
    rw [List.takeWhile_append_of_pos hword]
    cases rest with
    | nil => simp
    | cons d rest => rw [List.takeWhile_cons_of_neg (by simpa using hrest), List.append_nil]
  rw [firstWord?, List.cons_append, List.dropWhile_cons_of_neg (by simp [hcloser])]
  dsimp only
  rw [hc, htake]
  rfl

/-- A line opens with a word that has a property. -/
def OpensWith (P : Text → Prop) (line : Text) : Prop :=
  ∃ w rest, line = w ++ rest ∧ w.isName [] = true ∧ rest.head?.any Text.isWord = false ∧ P w

/-- A line that opens with a word is not indented. -/
lemma OpensWith.head?_isBlank {P : Text → Prop} {line : Text} (h : OpensWith P line) :
    line.head?.any Text.isBlank = false := by
  obtain ⟨w, rest, rfl, hw, _⟩ := h
  obtain ⟨c, w, rfl, hc, _⟩ := Text.exists_cons_of_isName hw
  exact Text.isBlank_of_isWord (Text.isWord_of_isAsciiLetter (hc.resolve_right List.not_mem_nil))

/-- A line that opens with a word is no control flow, unless the word is a control word and the line
holds no declaration marker. -/
lemma isControlFlow_of_opensWith {line : Text}
    (h : OpensWith (fun w => p.isControlWord w = false ∨ p.hasMarker line = true) line) :
    p.isControlFlow line = false := by
  obtain ⟨w, rest, rfl, hw, hrest, hcontrol⟩ := h
  rw [isControlFlow]
  rcases hcontrol with hword | hmarker
  · rw [firstWord?_append hw hrest, Option.any_some, hword]
    rfl
  · rw [hmarker, Bool.not_true, Bool.and_false]

/-- **A line that opens with a word is code**, unless the word is a control word and the line holds
no declaration marker. -/
lemma code?_of_opensWith (hp : p.opensWithWords = true) {line : Text}
    (hline : OpensWith (fun w => p.isControlWord w = false ∨ p.hasMarker (Text.trim line) = true)
      (Text.trim line)) : p.code? line = some (Text.trim line) := by
  have hflow := isControlFlow_of_opensWith hline
  obtain ⟨w, rest, htrim, hw, _, _⟩ := hline
  obtain ⟨c, w, rfl, hc, _⟩ := Text.exists_cons_of_isName hw
  have hc : Text.isAsciiLetter c = true := hc.resolve_right List.not_mem_nil
  have hmarkers := List.all_eq_true.mp (Bool.and_eq_true_iff.mp hp).1
  rw [htrim, List.cons_append] at hflow ⊢
  refine code?_of_stripAttributes ?_ ?_ (List.cons_ne_nil _ _) hflow
  · rw [htrim, List.cons_append, isNoCode, isComment_eq_false hmarkers hc]
    rfl
  · rw [htrim, List.cons_append, stripAttributes_eq_self_iff.mpr (isClear_of_letter hp hc _)]

/-- What a line with a header declares, if it is code, is what the rules make of it. -/
lemma classify?_of_header (hp : p.opensWithWords = true) {site : Site}
    (hline : Text.trim site.line = h.text)
    (hopens : OpensWith (fun w => p.isControlWord w = false ∨ p.hasMarker h.text = true) h.text)
    {o : Option Element} (hrules : p.applyRules site h.text p.rules = o) :
    p.classify? site = o := by
  rw [classify?, code?_of_opensWith hp (by rwa [hline]), Option.bind_some, hline, hrules]

/-- **A line with a header is the declaration of it**, if it is code, one of the rules reads the
header and those before it leave it the line. -/
lemma classify?_eq_declaration (hp : p.opensWithWords = true) {site : Site}
    (hline : Text.trim site.line = h.text)
    (hopens : OpensWith (fun w => p.isControlWord w = false ∨ p.hasMarker h.text = true) h.text)
    (hh : h.IsSolid) {skipped more : List Rule} {rule : Rule}
    (hrules : p.rules = skipped ++ rule :: more) (hskipped : ∀ r ∈ skipped, r.Passes h.text)
    (hrule : rule.isForHeaders = true)
    (hreceiver : h.receiver = [] ∨ (rule.pattern.group? "receiver").isSome = true)
    (happlies : rule.applies h.text = true) (hreads : rule.Reads h) :
    p.classify? site = some (h.declaration rule.kind p site) := by
  refine classify?_of_header hp hline hopens ?_
  rw [hrules]
  exact applyRules_eq_declaration hh hskipped hrule hreceiver happlies hreads site more

/-- The same of the header of a function. -/
lemma classify?_eq_element (hp : p.opensWithWords = true) {site : Site}
    (hline : Text.trim site.line = h.text)
    (hopens : OpensWith (fun w => p.isControlWord w = false ∨ p.hasMarker h.text = true) h.text)
    (hh : h.IsSolid) {skipped more : List Rule} {rule : Rule}
    (hrules : p.rules = skipped ++ rule :: more) (hskipped : ∀ r ∈ skipped, r.Passes h.text)
    (hrule : rule.isForFunctions = true)
    (hreceiver : h.receiver = [] ∨ (rule.pattern.group? "receiver").isSome = true)
    (happlies : rule.applies h.text = true) (hreads : rule.Reads h) :
    p.classify? site = some (h.element p site) := by
  obtain ⟨hkind, hheaders⟩ := Rule.isForHeaders_of_isForFunctions hrule
  rw [classify?_eq_declaration hp hline hopens hh hrules hskipped hheaders hreceiver happlies
    hreads, hkind, Header.element]

end Profile

/-! ## Reading a header -/

namespace Rule

variable {h : Header} {fold : Bool}

/-- What leads from the introducing word of a header to its name, if there is no receiver. -/
lemma first_link_of_consumes {parts : List Expr} (hreceiver : h.receiver = []) (hlink : h.link = [])
    (hparts : (Expr.seq parts).Consumes fold h.gap (h.name ++ h.rest)) :
    (Expr.seq parts).First fold
      (.between (h.before ++ h.keyword)
        (h.gap ++ (h.receiver ++ (h.link ++ (h.name ++ h.rest)))) [(1, .after h.before h.keyword)])
      (.between h.upToName (h.name ++ h.rest)
        (h.receiverGroup ++ [(1, .after h.before h.keyword)])) := by
  rw [Header.upToName, Header.receiverGroup, hreceiver, hlink, List.append_nil, List.append_nil]
  exact hparts _ _

/-- What leads from the introducing word of a header to its name, if there is a receiver. -/
lemma first_link_of_receiver {space owner : Expr} (hne : h.receiver ≠ [])
    (hspace : space.Consumes fold h.gap (h.receiver ++ (h.link ++ (h.name ++ h.rest))))
    (howner : ∀ before groups, owner.First fold
      (.between before (h.receiver ++ (h.link ++ (h.name ++ h.rest))) groups)
      (.between (before ++ h.receiver ++ h.link) (h.name ++ h.rest)
        ((4, .after before h.receiver) :: groups))) :
    (Expr.seq [space, owner]).First fold
      (.between (h.before ++ h.keyword)
        (h.gap ++ (h.receiver ++ (h.link ++ (h.name ++ h.rest)))) [(1, .after h.before h.keyword)])
      (.between h.upToName (h.name ++ h.rest)
        (h.receiverGroup ++ [(1, .after h.before h.keyword)])) := by
  rw [Header.upToName, Header.receiverGroup, if_neg (by simpa using hne)]
  exact (hspace _ _).seq (howner _ _).seq_one

/-- **From the introducing word on**: the word, what leads from there to the name, the name, and
what must follow. -/
lemma first_from_keyword {word nm : Expr} {parts tail : List Expr}
    (hword : word.Consumes fold h.keyword (h.gap ++ (h.receiver ++ (h.link ++ (h.name ++ h.rest)))))
    (hparts : (Expr.seq parts).First fold
      (.between (h.before ++ h.keyword)
        (h.gap ++ (h.receiver ++ (h.link ++ (h.name ++ h.rest)))) [(1, .after h.before h.keyword)])
      (.between h.upToName (h.name ++ h.rest)
        (h.receiverGroup ++ [(1, .after h.before h.keyword)])))
    (hname : nm.Consumes fold h.name h.rest) {w after : Text} (hrest : h.rest = w ++ after)
    (htail : (Expr.seq tail).Consumes fold w after) :
    (Expr.seq (.group 1 word :: (parts ++ .group 2 nm :: tail))).First fold
      (.between h.before h.fromKeyword [])
      (.between (h.upToName ++ h.name ++ w) after h.groups) := by
  have hlast : (Expr.seq tail).First fold (.between (h.upToName ++ h.name) h.rest h.groups)
      (.between (h.upToName ++ h.name ++ w) after h.groups) := by
    rw [hrest]
    exact htail _ _
  have hgroup := ((hname h.upToName
    (h.receiverGroup ++ [(1, .after h.before h.keyword)])).group 2).seq hlast
  exact ((hword h.before []).group 1).seq (hparts.seq_append hgroup)

/-- **A rule whose pieces take those of the header reads it.** The pieces are those before the
introducing word, the first of which is a condition that holds at the start of the line, the
introducing word, what leads from there to the name, the name, and what must follow. -/
theorem reads_of_consumes {rule : Rule} (opening : Expr) (intro : List Expr) (word : Expr)
    (parts : List Expr) (nm : Expr) (tail : List Expr)
    (hbody : rule.pattern.body =
      .seq (opening :: (intro ++ .group 1 word :: (parts ++ .group 2 nm :: tail))))
    (hopening : ∀ after, opening.First rule.pattern.fold (.between [] after [])
      (.between [] after []))
    (hintro : (Expr.seq intro).Consumes rule.pattern.fold h.before h.fromKeyword)
    (hword : word.Consumes rule.pattern.fold h.keyword
      (h.gap ++ (h.receiver ++ (h.link ++ (h.name ++ h.rest)))))
    (hparts : (Expr.seq parts).First rule.pattern.fold
      (.between (h.before ++ h.keyword)
        (h.gap ++ (h.receiver ++ (h.link ++ (h.name ++ h.rest)))) [(1, .after h.before h.keyword)])
      (.between h.upToName (h.name ++ h.rest)
        (h.receiverGroup ++ [(1, .after h.before h.keyword)])))
    (hname : nm.Consumes rule.pattern.fold h.name h.rest) {w after : Text}
    (hrest : h.rest = w ++ after)
    (htail : (Expr.seq tail).Consumes rule.pattern.fold w after) : rule.Reads h := by
  have hkeyword := first_from_keyword hword hparts hname hrest htail
  have hfirst := (hopening h.text).seq ((hintro [] []).seq_append hkeyword)
  rw [← hbody] at hfirst
  exact ⟨_, find?_of_first hfirst⟩

end Rule

end DeclIndex
