import DeclIndex.Proofs.Language.PascalType
import DeclIndex.Proofs.Pattern.InFront
import DeclIndex.Proofs.Profile.Window

/-!
# Headers of types that are split in Pascal

In Pascal what a type is may stand on a later line than its name and the equals sign. The lines in
between are passed over if they are blank or comments, and the first other line of the window is
read like the rest of the header. So the header and that line declare what they declare written on
one line.

## Main definitions

* `Language.pascalBody` — the confirmation of the rule for types.
* `Language.typeElement` — the type that a header and a confirmation declare.

## Main results

* `Language.classify?_typeHeader` — what a line with the header of a type declares.
* `Language.elementAt?_splitType` — a split header reads like the one-line form.
-/

namespace DeclIndex

open Pattern Pattern.Expr

/-! ## Lines that go on -/

namespace Text

/-- A text without white space at its end is white space and the trimmed text. -/
lemma exists_blanks_trimEnd {t : Text} (ht : trim t ≠ []) :
    ∃ blanks, (∀ c ∈ blanks, isBlank c = true) ∧ trimEnd t = blanks ++ trim t := by
  refine ⟨t.takeWhile isBlank, fun c hc => List.mem_takeWhile_imp hc, ?_⟩
  have hsplit : t = t.takeWhile isBlank ++ trimStart t := List.takeWhile_append_dropWhile.symm
  have hne : ((trimStart t).reverse.dropWhile isBlank).isEmpty = false := by
    rw [List.isEmpty_eq_false_iff]
    intro hnil
    exact ht (by rw [trim, trimEnd, hnil]; rfl)
  conv_lhs => rw [hsplit]
  rw [trimEnd, List.reverse_append, List.dropWhile_append, hne, if_neg (by decide),
    List.reverse_append, List.reverse_reverse]
  rfl

/-- A line that goes on with a space and a trimmed text, trimmed. -/
lemma trim_trimEnd_append {t u : Text} (ht : trim t ≠ []) (hu : trim u ≠ []) :
    trim (trimEnd t ++ ' ' :: trim u) = trim t ++ ' ' :: trim u := by
  obtain ⟨blanks, hblanks, htrim⟩ := exists_blanks_trimEnd ht
  have hhead : (trim t ++ ' ' :: trim u).head?.any isBlank = false := by
    have hhead := any_head?_trim t
    obtain ⟨c, rest, hcons⟩ := List.exists_cons_of_ne_nil ht
    rwa [hcons] at hhead ⊢
  have hlast : (trim t ++ ' ' :: trim u).getLast?.any isBlank = false := by
    have hlast := any_getLast?_trim u
    obtain ⟨rest, c, hcons⟩ := (List.eq_nil_or_concat (trim u)).resolve_left hu
    rw [hcons, List.concat_eq_append, List.getLast?_concat] at hlast
    rw [hcons, List.concat_eq_append, ← List.cons_append, ← List.append_assoc, List.getLast?_concat]
    exact hlast
  rw [htrim, List.append_assoc, trim, trimStart_append hblanks hhead, trimEnd_eq_self hlast]

/-- A text of white space alone that does not end with white space is empty. -/
lemma eq_nil_of_trim {t : Text} (ht : trim t = []) (hlast : t.getLast?.any isBlank = false) :
    t = [] := by
  have hstart : trimStart t = [] := by
    rwa [trim, trimEnd_eq_self (any_getLast?_of_suffix (trimStart_isSuffix t) hlast)] at ht
  rcases List.eq_nil_or_concat t with hnil | ⟨rest, c, rfl⟩
  · exact hnil
  · have hc := List.dropWhile_eq_nil_iff.mp hstart c (by simp)
    rw [List.concat_eq_append, List.getLast?_concat, Option.any_some, hc] at hlast
    exact absurd hlast (by decide)

end Text

namespace Profile

variable {p : Profile}

/-- Where nothing in the window is code no confirmation is found. -/
lemma confirmation?_of_noCode (confirm : Pattern) {n : Nat} {below : List Text}
    (h : ∀ l ∈ below.take n, p.isNoCode (Text.trim l) = true) :
    p.confirmation? confirm n [] below = none := by
  have hnone : ((below.take n).map Text.trim).find? (fun line => !p.isNoCode line) = none := by
    rw [List.find?_eq_none]
    intro line hline
    obtain ⟨l, hl, rfl⟩ := List.mem_map.mp hline
    simp [h l hl]
  have hempty : (Text.trim []).isEmpty = true := rfl
  rw [confirmation?, if_pos hempty, hnone, Option.bind_none]

/-- A confirmation is looked for in the first line of code below, if it stands in the window. -/
lemma confirmation?_of_gap (confirm : Pattern) (n : Nat) {gap rest : List Text} {t : Text}
    (hgap : ∀ l ∈ gap, p.isNoCode (Text.trim l) = true) (ht : p.isNoCode (Text.trim t) = false) :
    p.confirmation? confirm n [] (gap ++ t :: rest) =
      if gap.length < n then (confirm.find? (Text.trim t)).map fun found => (found, Text.trim t)
      else none := by
  split
  · rename_i hlt
    obtain ⟨m, hm⟩ : ∃ m, n - gap.length = m + 1 := ⟨n - gap.length - 1, by omega⟩
    have htake : (gap ++ t :: rest).take n = gap ++ t :: rest.take m := by
      rw [List.take_append, List.take_of_length_le (by omega), hm, List.take_succ_cons]
    have hskip : (gap.map Text.trim).find? (fun line => !p.isNoCode line) = none := by
      rw [List.find?_eq_none]
      intro line hline
      obtain ⟨l, hl, rfl⟩ := List.mem_map.mp hline
      simp [hgap l hl]
    have hempty : (Text.trim []).isEmpty = true := rfl
    rw [confirmation?, if_pos hempty, htake, List.map_append, List.find?_append, hskip, Option.none_or,
      List.map_cons, List.find?_cons_of_pos (by simp [ht]), Option.bind_some]
  · rename_i hle
    refine confirmation?_of_noCode confirm fun l hl => hgap l ?_
    rw [List.take_append_of_le_length (by omega)] at hl
    exact List.mem_of_mem_take hl

/-- A confirmation is looked for in the rest of the line, if that is not blank. -/
lemma confirmation?_of_tail (confirm : Pattern) (n : Nat) {tail : Text} (ht : Text.trim tail ≠ [])
    (below : List Text) : p.confirmation? confirm n tail below =
      (confirm.find? tail).map fun found => (found, tail) := by
  rw [confirmation?, if_neg (by simpa using ht), Option.bind_some]

/-- The word that a line opens with ends before a character that is no part of it. -/
lemma firstWord?_append_of_mem {line : Text} {c : Char} (hc : c ∈ line)
    (hcloser : isCloser c = false) (hword : Text.isWord c = false) (rest : Text) :
    firstWord? (line ++ rest) = firstWord? line := by
  obtain ⟨u, v, rfl⟩ := List.append_of_mem hc
  have hletter : Text.isAsciiLetter c = false := by
    by_contra hletter
    rw [Text.isWord_of_isAsciiLetter (by simpa using hletter)] at hword
    exact absurd hword (by decide)
  have hsame : ∀ x, firstWord? (u ++ c :: x) = firstWord? (u ++ [c]) := by
    intro x
    have hdrop : ∀ y, (u ++ c :: y).dropWhile isCloser = u.dropWhile isCloser ++ c :: y := by
      intro y
      rw [List.dropWhile_append, List.dropWhile_cons_of_neg (by simpa using hcloser)]
      split
      · rename_i hnil
        rw [List.isEmpty_iff.mp hnil, List.nil_append]
      · rfl
    have htake : ∀ w y : Text, (w ++ c :: y).takeWhile Text.isWord = w.takeWhile Text.isWord := by
      intro w y
      rw [List.takeWhile_append, List.takeWhile_cons_of_neg (by simpa using hword),
        List.append_nil]
      split
      · rename_i hall
        exact ((List.takeWhile_prefix _).eq_of_length hall).symm
      · rfl
    rw [firstWord?, firstWord?, hdrop, hdrop]
    cases u.dropWhile isCloser with
    | nil => simp [hletter]
    | cons d w =>
      simp only [List.cons_append, htake]
  rw [List.append_assoc, List.cons_append, hsame (v ++ rest), hsame v]

end Profile

namespace Language

variable {h : TypeHeader} {site : Site}

/-! ## The rule for units -/

/-- The words for units. -/
def pascalUnits : List Text :=
  ["program", "unit", "library", "package"]

/-- The gate of the rule for units lets a line in if it begins with one of the words, up to case,
and white space after it. -/
lemma applies_pascalUnit_iff (line : Text) :
    pascal.rules[0].applies line = true ↔ ∃ w ∈ pascalUnits, ∃ v b rest, line = v ++ b :: rest ∧
      List.Forall₂ (fun c d => sameChar true c d = true) w v ∧ Text.isBlank b = true := by
  have hgate : pascal.rules[0].applies line =
      ((oneOf (pascalUnits.map word)).run true (blank.run true some) (.between [] line [])).isSome := by
    rw [Rule.applies, show pascal.rules[0].gate = some (patternOf true
        (.cat start (.cat (oneOf (pascalUnits.map word)) blank))) from rfl, Option.all_some, occursIn,
      find?_eq_matchStart? rfl, matchStart?, matchAt?, Option.isSome_map]
    rfl
  have hblank : ∀ passed rest : Text, (blank.run true some ⟨passed, rest, []⟩).isSome = true ↔
      ∃ b after, rest = b :: after ∧ Text.isBlank b = true := by
    intro passed rest
    have hrun : blank.run true some = takeOne Text.isBlank some := by
      have haccepts : accepts true false [.kind .blank false] = Text.isBlank := accepts_blank
      rw [← haccepts]
      rfl
    rw [hrun]
    cases rest with
    | nil => simp [takeOne]
    | cons b rest =>
      rw [takeOne]
      split <;> simp_all
  rw [hgate, isSome_run_oneOf]
  simp only [List.mem_map, exists_exists_and_eq_and, State.between, List.reverse_nil,
    isSome_run_word, List.append_nil, hblank]
  constructor
  · rintro ⟨w, hw, v, _, hline, hsame, b, rest, rfl, hb⟩
    exact ⟨w, hw, v, b, rest, hline, hsame, hb⟩
  · rintro ⟨w, hw, v, b, rest, hline, hsame, hb⟩
    exact ⟨w, hw, v, _, hline, hsame, b, rest, rfl, hb⟩

/-- A line with an equals sign is let in by the gate of the rule for units or is not, however it
goes on. -/
lemma applies_pascalUnit_append {line : Text} (hline : '=' ∈ line)
    (h : pascal.rules[0].applies line = false) (rest : Text) :
    pascal.rules[0].applies (line ++ rest) = false := by
  rw [Bool.eq_false_iff]
  intro happlies
  obtain ⟨w, hw, v, b, after, heq, hsame, hb⟩ := (applies_pascalUnit_iff _).mp happlies
  have hletters : pascalUnits.all (fun w => w.all fun c => !sameChar true c '=') = true := by
    decide
  have hmem : '=' ∉ v ++ [b] := by
    rw [List.mem_append, List.mem_singleton]
    rintro (hmem | rfl)
    · obtain ⟨c, hc, hcd⟩ := exists_same_of_mem hsame hmem
      have hne := List.all_eq_true.mp (List.all_eq_true.mp hletters w hw) c hc
      rw [hcd] at hne
      exact absurd hne (by decide)
    · exact absurd hb (by decide)
  have hword : v ++ [b] <+: line ++ rest := ⟨after, by rw [heq]; simp⟩
  rcases List.prefix_or_prefix_of_prefix hword (List.prefix_append line rest) with hle | hle
  · obtain ⟨more, hmore⟩ := hle
    have hclaims : pascal.rules[0].applies line = true :=
      (applies_pascalUnit_iff _).mpr ⟨w, hw, v, b, more, by rw [← hmore]; simp, hsame, hb⟩
    rw [h] at hclaims
    exact absurd hclaims (by decide)
  · exact hmem (hle.subset hline)

/-! ## What a header declares -/

/-- The confirmation of the rule for types. -/
def pascalBody : Pattern :=
  patternOf true (seq pascalTypeBody)

/-- The type that a header declares with a confirmation and the text it was found in. -/
def typeElement (h : TypeHeader) (site : Site) (confirmed : Found × Text) : Element where
  kind := .type
  name := Text.trim h.name
  visibility := .unspecified
  parent := Profile.groupText pascalBody confirmed.1 confirmed.2 "parent"
  documentation := pascal.documentation site .type
  line := site.above.length + 1
  keyword := pascal.spelling (Profile.groupText pascalBody confirmed.1 confirmed.2 "keyword")

/-- The match of the rule for types in a line that begins with a header. -/
def TypeHeader.found (h : TypeHeader) : Found :=
  ⟨⟨0, h.text.length⟩, [(2, .after h.before h.name)]⟩

/-- The text of the name in the match. -/
lemma groupText_name (h : TypeHeader) (after : Text) :
    Profile.groupText pascalType.pattern h.found (h.text ++ after) "name" = Text.trim h.name := by
  have hslice : pascalType.pattern.textOf? h.found (h.text ++ after) "name" = some h.name := by
    have htext : h.text ++ after = h.before ++ (h.name ++ (h.afterName ++ after)) := by
      simp only [TypeHeader.text, List.append_assoc]
    rw [htext]
    exact congrArg some (Span.slice_after h.before h.name (h.afterName ++ after))
  rw [Profile.groupText, hslice, Option.getD_some]

/-- A name does not begin with white space. -/
lemma trim_name_ne_nil (hh : h.IsWritten) : Text.trim h.name ≠ [] := by
  obtain ⟨c, cs, hname, _⟩ := hh.name
  have hc := hh.not_endsTypeName c (by rw [hname]; exact List.mem_cons_self)
  rw [endsTypeName, Bool.or_eq_false_iff, Bool.or_eq_false_iff] at hc
  rw [hname]
  exact Text.trim_cons_ne_nil hc.1.1 cs

/-- **What the rule for types makes of a header**: the type that it declares, if its confirmation is
found. -/
lemma elementOf?_typeHeader (hh : h.IsWritten)
    (hname : pascal.isStatementWord (Text.trim h.name) = false) (after : Text) (site : Site) :
    pascal.elementOf? pascalType h.found site (h.text ++ after) =
      (pascal.confirmation? pascalBody 10 after site.below).map (typeElement h site) := by
  have hkeyword : Profile.groupText pascalType.pattern h.found (h.text ++ after) "keyword" = [] := rfl
  have hparent : Profile.groupText pascalType.pattern h.found (h.text ++ after) "parent" = [] := rfl
  have hempty : (Text.trim h.name).isEmpty = false :=
    List.isEmpty_eq_false_iff.mpr (trim_name_ne_nil hh)
  have hconfirm : pascalType.confirm = some pascalBody := rfl
  have hlookahead : pascalType.lookahead = 10 := rfl
  have htail : (h.text ++ after).drop h.found.span.stop = after := List.drop_left
  have hkept : ∀ t : Text, (if t.isEmpty = true then [] else t) = t := by
    intro t
    cases t <;> rfl
  have hvisibility : ∀ before, pascal.visibility (Text.trim h.name) before = .unspecified :=
    fun _ => Profile.visibility_of_no_word rfl fun _ h => nomatch h
  unfold Profile.elementOf?
  simp only [groupText_name, hkeyword, hparent, hempty, hname, Bool.and_false, Bool.or_self,
    Bool.false_eq_true, if_false, hconfirm, hlookahead, htail, hkept, hvisibility]
  rfl

/-- **What a line with the header of a type declares**, if no earlier rule claims it. -/
lemma classify?_typeHeader (hh : h.IsWritten) {after : Text}
    (hafter : after.head?.any (sameChar true '=') = false)
    (hcode : pascal.code? site.line = some (h.text ++ after))
    (hearlier : pascal.rules[0].applies (h.text ++ after) = false)
    (hname : pascal.isStatementWord (Text.trim h.name) = false) :
    pascal.classify? site =
      (pascal.confirmation? pascalBody 10 after site.below).map (typeElement h site) := by
  have hrules : pascal.rules = [pascal.rules[0]] ++ pascalType :: pascal.rules.drop 2 := rfl
  have hpasses : ∀ r ∈ [pascal.rules[0]], r.Passes (h.text ++ after) := by
    intro r hr
    rw [List.mem_singleton.mp hr]
    exact Or.inl hearlier
  rw [Profile.classify?, hcode, Option.bind_some, hrules, Profile.applyRules_append hpasses,
    Profile.applyRules, find?_typeHeader hh hafter]
  exact elementOf?_typeHeader hh hname after site

/-! ## Headers that are split -/

/-- The end of a header is an equals sign. -/
lemma TypeHeader.mem_text (h : TypeHeader) : '=' ∈ h.text := by
  simp only [TypeHeader.text, TypeHeader.afterName, List.mem_append]
  exact Or.inr (Or.inr (Or.inr (Or.inr (by decide))))

/-- A line that is no comment is none if it goes on, if it is not shorter than the markers. -/
lemma isNoCode_append {line : Text} (hlength : 2 ≤ line.length)
    (h : pascal.isNoCode line = false) (rest : Text) : pascal.isNoCode (line ++ rest) = false := by
  have hmarkers : ∀ m ∈ pascal.commentMarkers, m.length ≤ 2 := by decide
  simp only [Profile.isNoCode, Bool.or_eq_false_iff, List.isEmpty_eq_false_iff] at h ⊢
  refine ⟨by simp [h.1], ?_⟩
  rw [← Bool.not_eq_true]
  intro hcomment
  obtain ⟨m, hm, hstarts⟩ := List.any_eq_true.mp hcomment
  have hprefix : m <+: line := by
    refine List.prefix_of_prefix_length_le (List.isPrefixOf_iff_prefix.mp hstarts)
      (List.prefix_append line rest) ?_
    exact Nat.le_trans (hmarkers m hm) hlength
  have hagain : Comment.isComment pascal.commentMarkers line = true :=
    List.any_eq_true.mpr ⟨m, hm, List.isPrefixOf_iff_prefix.mpr hprefix⟩
  rw [h.2] at hagain
  exact absurd hagain (by decide)

/-- The code of a header that goes on with a space and a trimmed text. -/
lemma code?_typeHeader_append (hh : h.IsWritten) {header t : Text}
    (hcode : pascal.code? header = some h.text) (ht : Text.trim t ≠ []) :
    pascal.code? (Text.trimEnd header ++ ' ' :: Text.trim t) =
      some (h.text ++ ' ' :: Text.trim t) := by
  obtain ⟨hnoCode, htrim, hne, hflow⟩ := Profile.code?_eq_some hcode
  have hstrip : ∀ line, pascal.stripAttributes line = line := fun _ => rfl
  have hmarker : ∀ line, pascal.hasMarker line = false := fun _ => rfl
  rw [hstrip] at htrim
  have hjoined : Text.trim (Text.trimEnd header ++ ' ' :: Text.trim t) =
      h.text ++ ' ' :: Text.trim t := by
    rw [Text.trim_trimEnd_append (by rwa [← htrim]) ht, ← htrim]
  have hlength : 2 ≤ h.text.length := by
    obtain ⟨c, cs, hname, _⟩ := hh.name
    simp only [TypeHeader.text, TypeHeader.afterName, hname, List.length_append, List.length_cons]
    have hequals : "=".toList.length = 1 := rfl
    omega
  rw [← htrim] at hnoCode
  have hnoFlow : pascal.isControlFlow (h.text ++ ' ' :: Text.trim t) = false := by
    rw [Profile.isControlFlow, hmarker] at hflow ⊢
    rwa [Profile.firstWord?_append_of_mem h.mem_text (by decide) (by decide)]
  rw [Profile.code?, hjoined]
  dsimp only
  rw [isNoCode_append hlength hnoCode, hstrip, hnoFlow]
  simp

/-- The confirmation begins at the start of the text, perhaps after white space, and does not look
back. -/
lemma find?_pascalBody_cons_space {t : Text} (ht : t.head?.any Text.isBlank = false) :
    pascalBody.find? (' ' :: t) = (pascalBody.find? t).map Found.behindSpace := by
  have hstuck : ∀ t, (Expr.seq (pascalTypeBody.drop 2)).StuckAt true (' ' :: t) := fun t =>
    stuckAt_of_ends_ofText (v := [' ']) (by decide) t
  exact find?_cons_space rfl (by decide) hstuck ht

/-- What a header declares that goes on with a trimmed line of code. -/
lemma elementAt?_typeHeader_append (hh : h.IsWritten) {header t : Text}
    (hcode : pascal.code? header = some h.text)
    (hearlier : pascal.rules[0].applies h.text = false)
    (hname : pascal.isStatementWord (Text.trim h.name) = false) (ht : Text.trim t ≠ []) :
    pascal.elementAt? [Text.trimEnd header ++ ' ' :: Text.trim t] 0 =
      (pascalBody.find? (Text.trim t)).map fun found =>
        typeElement h ⟨[], Text.trimEnd header ++ ' ' :: Text.trim t, []⟩
          (found.behindSpace, ' ' :: Text.trim t) := by
  have htail : Text.trim (' ' :: Text.trim t) ≠ [] := by
    have htrim : Text.trim (' ' :: Text.trim t) = Text.trim (Text.trim t) := rfl
    rwa [htrim, Text.trim_trim]
  have hspace : (' ' :: Text.trim t).head?.any (sameChar true '=') = false :=
    (by decide : sameChar true '=' ' ' = false)
  have hclassify := @classify?_typeHeader h ⟨[], Text.trimEnd header ++ ' ' :: Text.trim t, []⟩ hh _
    hspace (code?_typeHeader_append hh hcode ht) (applies_pascalUnit_append h.mem_text hearlier _)
    hname
  rw [Profile.confirmation?_of_tail pascalBody 10 htail,
    find?_pascalBody_cons_space (Text.any_head?_trim t), Option.map_map, Option.map_map] at hclassify
  exact hclassify

/-- Up to the comment and the line number, a confirmation declares the same with a space in front.
-/
lemma bare_typeElement_behindSpace (h : TypeHeader) (s s' : Site) (found : Found) (t : Text) :
    (typeElement h s (found, t)).bare = (typeElement h s' (found.behindSpace, ' ' :: t)).bare := by
  simp only [typeElement, Element.bare, Profile.groupText, textOf?_cons_space]

/-- Behind a match that reaches to the white space at the end of a line of code, nothing is left. -/
private lemma eq_nil_of_code? {line before after : Text}
    (hcode : pascal.code? line = some (before ++ after)) (hafter : Text.trim after = []) :
    after = [] := by
  obtain ⟨_, htrim, _, _⟩ := Profile.code?_eq_some hcode
  have hlast : (before ++ after).getLast?.any Text.isBlank = false := by
    rw [htrim]
    exact Text.any_getLast?_trim line
  exact Text.eq_nil_of_trim hafter
    (Text.any_getLast?_of_suffix (List.suffix_append before after) hlast)

/-- **A split header of a type reads like the one-line form.** Let the rule for types match a line
of code that no earlier rule claims, with a name that is no statement word and nothing but white
space after the match. Below the line let there be blank lines and comments, and then a line of
code. The header declares something if and only if that line is among the first ten and the
confirmation is found in it, and up to the comment and the line number it is what the two lines
declare when written on one line. If no line among the first ten is code, the header declares
nothing.

**Proof sketch.** The match has the pieces of a header, which do not depend on how the line goes on
(`find?_typeHeader`), and neither does what comes before the rule for types: the line has an equals
sign, so that it does not begin with a comment marker or with a word that the gate of the earlier
rule or the check for control words would take for another one. So both lines are read by the rule
for types, and what it makes of them differs only in where the confirmation is found: in the trimmed
line below or, with a space in front, in the rest of the line (`find?_pascalBody_cons_space`). -/
theorem elementAt?_splitType {header code : Text} {found : Found}
    (hcode : pascal.code? header = some code)
    (hearlier : ∀ r ∈ pascal.rules.take 1, r.applies code = false)
    (hfound : pascalType.pattern.find? code = some found)
    (hname : pascal.isStatementWord
      (Profile.groupText pascalType.pattern found code "name") = false)
    (htail : Text.trim (code.drop found.span.stop) = []) (before : List Text) :
    (∀ (gap : List Text) (t : Text) (rest : List Text),
      (∀ l ∈ gap, pascal.isNoCode (Text.trim l) = true) → pascal.isNoCode (Text.trim t) = false →
      ((pascal.elementAt? (before ++ header :: (gap ++ t :: rest)) before.length).isSome = true ↔
        gap.length ≤ 9 ∧ (pascalBody.find? (Text.trim t)).isSome = true) ∧
      (gap.length ≤ 9 →
        (pascal.elementAt? (before ++ header :: (gap ++ t :: rest)) before.length).map
            Element.bare =
          (pascal.elementAt? [Text.trimEnd header ++ ' ' :: Text.trim t] 0).map Element.bare)) ∧
    ∀ below : List Text, (∀ l ∈ below.take 10, pascal.isNoCode (Text.trim l) = true) →
      pascal.elementAt? (before ++ header :: below) before.length = none := by
  obtain ⟨h, after, hh, rfl, hafter⟩ := exists_typeHeader_of_find? hfound
  obtain rfl : found = h.found :=
    Option.some.inj (hfound.symm.trans (find?_typeHeader hh hafter))
  have hdrop : (h.text ++ after).drop h.found.span.stop = after := List.drop_left
  obtain rfl := eq_nil_of_code? hcode (hdrop ▸ htail)
  rw [groupText_name] at hname
  have hunit : pascal.rules[0].applies (h.text ++ []) = false := hearlier _ List.mem_cons_self
  have hsite : ∀ below, pascal.elementAt? (before ++ header :: below) before.length =
      (pascal.confirmation? pascalBody 10 [] below).map
        (typeElement h ⟨before.reverse, header, below⟩) := by
    intro below
    have hplace := pascal.elementAt?_append_right before (header :: below) 0
    rw [Nat.add_zero] at hplace
    exact hplace.trans (classify?_typeHeader hh rfl hcode hunit hname)
  refine ⟨fun gap t rest hgap ht => ?_, fun below hbelow => ?_⟩
  · rw [hsite, Profile.confirmation?_of_gap pascalBody 10 hgap ht]
    refine ⟨?_, fun hle => ?_⟩
    · rw [Option.isSome_map]
      split
      · rw [Option.isSome_map]
        exact ⟨fun hsome => ⟨by omega, hsome⟩, fun hboth => hboth.2⟩
      · exact ⟨fun hsome => absurd hsome (by decide), fun hboth => by omega⟩
    · have hne : Text.trim t ≠ [] := by
        rw [Profile.isNoCode, Bool.or_eq_false_iff, List.isEmpty_eq_false_iff] at ht
        exact ht.1
      rw [List.append_nil] at hcode hunit
      rw [elementAt?_typeHeader_append hh hcode hunit hname hne, if_pos (by omega), Option.map_map,
        Option.map_map, Option.map_map]
      congr 1
      funext found
      exact bare_typeElement_behindSpace h _ _ found _
  · rw [hsite, Profile.confirmation?_of_noCode pascalBody hbelow]
    rfl

/-- A class whose body stands below a blank line and a comment, and one whose body stands below the
window. -/
theorem elementAt?_splitType_class :
    pascal.code? "  type TShape<T> =  " = some "type TShape<T> =" ∧
      (∀ r ∈ pascal.rules.take 1, r.applies "type TShape<T> =" = false) ∧
      pascalType.pattern.find? "type TShape<T> =" = some ⟨⟨0, 16⟩, [(2, ⟨5, 11⟩)]⟩ ∧
      pascal.isStatementWord (Profile.groupText pascalType.pattern ⟨⟨0, 16⟩, [(2, ⟨5, 11⟩)]⟩
        "type TShape<T> =" "name") = false ∧
      (pascal.elementAt? ["  type TShape<T> =  ", "", "// One.", "  class(TObject)", "end;"]
          0).map Element.bare =
        (pascal.elementAt? ["  type TShape<T> = class(TObject)"] 0).map Element.bare ∧
      pascal.elementAt? ("  type TShape<T> =  " :: (List.replicate 10 "// ..." ++ ["class"])) 0 =
        none := by
  have hcode : pascal.code? "  type TShape<T> =  " = some "type TShape<T> =" := by decide +kernel
  have hearlier : ∀ r ∈ pascal.rules.take 1, r.applies "type TShape<T> =" = false := by
    decide +kernel
  have hfound : pascalType.pattern.find? "type TShape<T> =" =
      some ⟨⟨0, 16⟩, [(2, ⟨5, 11⟩)]⟩ := by
    decide +kernel
  have hname : pascal.isStatementWord (Profile.groupText pascalType.pattern
      ⟨⟨0, 16⟩, [(2, ⟨5, 11⟩)]⟩ "type TShape<T> =" "name") = false := by
    decide +kernel
  have hsplit := elementAt?_splitType hcode hearlier hfound hname (by decide +kernel) []
  refine ⟨hcode, hearlier, hfound, hname, ?_, ?_⟩
  · exact (hsplit.1 ["", "// One."] "  class(TObject)" ["end;"] (by decide +kernel)
      (by decide +kernel)).2 (by decide)
  · exact hsplit.2 (List.replicate 10 "// ..." ++ ["class"]) (by decide +kernel)

end Language

end DeclIndex
