import DeclIndex.Proofs.Language.Pascal
import DeclIndex.Proofs.Pattern.TakesOnly

/-!
# Headers of types in Pascal

The rule for types reads a line up to the equals sign after the name of the type: perhaps `type` and
white space, the name, perhaps type parameters in angle brackets, perhaps white space, and the
equals sign. Every match has these pieces, and where the pieces stand at the start of a line the
match is what they say, whatever follows the equals sign, except for another one. So a match does
not change when the line goes on.

## Main definitions

* `Language.TypeHeader` — the pieces of a header, with `TypeHeader.IsWritten` for what they are.
* `Language.pascalType` — the rule for types.

## Main results

* `Language.exists_typeHeader_of_find?` — a match of the rule has the pieces of a header.
* `Language.find?_typeHeader` — the match in a line that begins with a header.
-/

namespace DeclIndex.Language

open Pattern Pattern.Expr

/-- The rule for types. -/
def pascalType : Rule := pascal.rules[1]

/-- The header of a type, up to the equals sign: what stands before the name, the name, the type
parameters, and the white space before the equals sign. -/
structure TypeHeader where
  before : Text
  name : Text
  params : Text
  gap : Text
  deriving DecidableEq, Repr

namespace TypeHeader

/-- What follows the name. -/
def afterName (h : TypeHeader) : Text :=
  h.params ++ (h.gap ++ "=")

/-- The header as it stands in a line. -/
def text (h : TypeHeader) : Text :=
  h.before ++ (h.name ++ h.afterName)

/-- The pieces of a header: `type` and white space or nothing, a letter and word characters, angle
brackets with what is between them or nothing, and white space. -/
structure IsWritten (h : TypeHeader) : Prop where
  before : h.before = [] ∨ ∃ word blanks, h.before = word ++ blanks ∧
    List.Forall₂ (fun c d => sameChar true c d = true) "type".toList word ∧ blanks ≠ [] ∧
    ∀ c ∈ blanks, Text.isBlank c = true
  name : ∃ c cs, h.name = c :: cs ∧ accepts true false letters c = true ∧
    ∀ d ∈ cs, Text.isWord d = true
  params : h.params = [] ∨ ∃ inner, h.params = "<" ++ (inner ++ ">") ∧
    ∀ c ∈ inner, accepts true true [.char '>'] c = true
  gap : ∀ c ∈ h.gap, Text.isBlank c = true

end TypeHeader

variable {h : TypeHeader}

/-! ## What follows a name -/

/-- The characters that can stand after the name of a type: white space, an opening angle bracket
and an equals sign. -/
def endsTypeName (c : Char) : Bool :=
  Text.isBlank c || c == '<' || c == '='

/-- A test that fails for white space, an opening angle bracket and an equals sign. -/
private lemma endsTypeName_eq_false {test : Char → Bool}
    (htest : ('<' :: '=' :: Text.blanks).all (fun c => !test c) = true) {c : Char}
    (hc : test c = true) : endsTypeName c = false := by
  by_contra hends
  rw [Bool.not_eq_false, endsTypeName, Bool.or_eq_true, Bool.or_eq_true, beq_iff_eq,
    beq_iff_eq] at hends
  have hmem : c ∈ '<' :: '=' :: Text.blanks := by
    rcases hends with (hblank | rfl) | rfl
    · exact List.mem_cons_of_mem _ (List.mem_cons_of_mem _ (Text.mem_blanks hblank))
    · simp
    · simp
  have hnot := List.all_eq_true.mp htest c hmem
  rw [hc] at hnot
  exact absurd hnot (by decide)

/-- No word character ends a name. -/
private lemma endsTypeName_of_isWord {c : Char} (hc : Text.isWord c = true) :
    endsTypeName c = false :=
  endsTypeName_eq_false (by decide +kernel) hc

/-- No letter ends a name, and neither does a character that agrees with a letter. -/
private lemma endsTypeName_of_accepts {c : Char} (hc : accepts true false letters c = true) :
    endsTypeName c = false :=
  endsTypeName_eq_false (by decide) hc

/-- Nothing in a name ends it. -/
lemma TypeHeader.IsWritten.not_endsTypeName (hh : h.IsWritten) :
    ∀ c ∈ h.name, endsTypeName c = false := by
  obtain ⟨c, cs, hname, hc, hcs⟩ := hh.name
  rw [hname]
  exact List.forall_mem_cons.mpr
    ⟨endsTypeName_of_accepts hc, fun d hd => endsTypeName_of_isWord (hcs d hd)⟩

/-- What follows a name ends it. -/
lemma TypeHeader.IsWritten.any_head?_afterName (hh : h.IsWritten) (after : Text) :
    (h.afterName ++ after).head?.any endsTypeName = true := by
  rw [TypeHeader.afterName]
  rcases hh.params with hparams | ⟨inner, hparams, _⟩
  · rw [hparams, List.nil_append]
    cases hgap : h.gap with
    | nil => rfl
    | cons c gap =>
      have hc := hh.gap c (by rw [hgap]; exact List.mem_cons_self)
      simp [endsTypeName, hc]
  · rw [hparams]
    rfl

/-! ## The match of a header -/

/-- The parts of the rule after the word `type`. -/
private def partsAfterType : List Expr :=
  [Language.name ident, optAngles, gap0, "=", .notAhead "="]

/-- What comes after the word `type` leads nowhere where no name begins. -/
private lemma isStuck_partsAfterType {s : State} (hs : s.rest.head?.any endsTypeName = true) :
    (Expr.seq partsAfterType).IsStuck true s := by
  have hletter : s.rest.head?.any (accepts true false letters) = false := by
    cases hrest : s.rest with
    | nil => rfl
    | cons c rest =>
      rw [List.head?_cons, Option.any_some, Bool.eq_false_iff]
      intro hc
      rw [hrest, List.head?_cons, Option.any_some, endsTypeName_of_accepts hc] at hs
      exact absurd hs (by decide)
  have hname : (Language.name ident).StuckAt true s.rest :=
    ((stuckAt_set hletter).seq [many wordChar]).group 2
  exact (hname.seq _).isStuck

/-- White space that a text begins with ends before the equals sign of a header, and so does what is
left of the header. -/
private lemma any_head?_of_blanks (hh : h.IsWritten) {blanks rest after : Text}
    (hne : blanks ≠ []) (hblanks : ∀ c ∈ blanks, Text.isBlank c = true)
    (heq : blanks ++ rest = h.afterName ++ after) : rest.head?.any endsTypeName = true := by
  obtain ⟨b, blanks, rfl⟩ := List.exists_cons_of_ne_nil hne
  rcases hh.params with hparams | ⟨inner, hparams, _⟩
  · rw [TypeHeader.afterName, hparams, List.nil_append, List.append_assoc] at heq
    rcases List.append_eq_append_iff.mp heq with ⟨gap, hgap, hrest⟩ | ⟨more, hmore, hrest⟩
    · rw [hrest]
      cases gap with
      | nil => rfl
      | cons c gap =>
        have hc := hh.gap c (by rw [hgap]; simp)
        simp [endsTypeName, hc]
    · cases more with
      | nil =>
        rw [List.nil_append] at hrest
        rw [← hrest]
        rfl
      | cons c more =>
        obtain rfl : '=' = c := (List.cons.inj hrest).1
        exact absurd (hblanks '=' (by rw [hmore]; simp)) (by decide)
  · rw [TypeHeader.afterName, hparams] at heq
    obtain rfl : b = '<' := (List.cons.inj heq).1
    exact absurd (hblanks '<' List.mem_cons_self) (by decide)

/-- A name that is itself `type` is not taken for the word before a name: no name follows it. -/
private lemma isStuck_after_type (hh : h.IsWritten) {after : Text} {s t : State}
    (hs : s.rest = h.name ++ (h.afterName ++ after))
    (ht : (Expr.seq ["type", gap]).Takes true s t) : (Expr.seq partsAfterType).IsStuck true t := by
  obtain ⟨_, hrest, word, blanks, rfl, hword, hne, hblanks⟩ :=
    (takesOnly_word "type".toList).seq (takesOnly_some1_set false [.kind .blank false]).seq_one ht
  rw [accepts_blank] at hblanks
  have hletters : ∀ d ∈ word, endsTypeName d = false := by
    have htest : "type".toList.all (fun c =>
        ('<' :: '=' :: Text.blanks).all fun d => !sameChar true c d) = true := by
      decide
    intro d hd
    obtain ⟨c, hc, hcd⟩ := exists_same_of_mem hword hd
    exact endsTypeName_eq_false (List.all_eq_true.mp htest c hc) hcd
  have hhead : (blanks ++ t.rest).head?.any endsTypeName = true := by
    obtain ⟨b, blanks, rfl⟩ := List.exists_cons_of_ne_nil hne
    simp [endsTypeName, hblanks b List.mem_cons_self]
  rw [hs, List.append_assoc] at hrest
  obtain ⟨-, heq⟩ := Text.append_inj_of_head hletters hh.not_endsTypeName hhead
    (hh.any_head?_afterName after) hrest.symm
  exact isStuck_partsAfterType (any_head?_of_blanks hh hne hblanks heq)

/-- The word `type` is taken if it is there. -/
private lemma consumes_type {word blanks : Text}
    (hword : List.Forall₂ (fun c d => sameChar true c d = true) "type".toList word)
    (hne : blanks ≠ []) (hblanks : ∀ c ∈ blanks, Text.isBlank c = true) (hh : h.IsWritten)
    (after : Text) : (optWord "type").Consumes true (word ++ blanks) (h.name ++ after) := by
  have hhead : (h.name ++ after).head?.any (accepts true false [.kind .blank false]) = false := by
    obtain ⟨c, cs, hname, _⟩ := hh.name
    have hc := hh.not_endsTypeName c (by rw [hname]; exact List.mem_cons_self)
    rw [endsTypeName, Bool.or_eq_false_iff, Bool.or_eq_false_iff] at hc
    rw [accepts_blank, hname]
    exact hc.1.1
  have hgap : gap.Consumes true blanks (h.name ++ after) := fun before _ =>
    first_some1_set (fun c hc => by rw [accepts_blank]; exact hblanks c hc) hne hhead before
  exact ((consumes_word_of_same hword _).seq hgap.seq_one).opt

/-- The name is taken. -/
private lemma consumes_name (hh : h.IsWritten) (after : Text) :
    ident.Consumes true h.name (h.afterName ++ after) := by
  have hafter : (h.afterName ++ after).head?.any Text.isWord = false := by
    have hends := hh.any_head?_afterName after
    cases hcons : h.afterName ++ after with
    | nil => rfl
    | cons c rest =>
      rw [hcons, List.head?_cons, Option.any_some] at hends
      rw [List.head?_cons, Option.any_some, Bool.eq_false_iff]
      intro hc
      rw [endsTypeName_of_isWord hc] at hends
      exact absurd hends (by decide)
  obtain ⟨c, cs, hname, hc, hcs⟩ := hh.name
  rw [hname]
  refine (consumes_set hc _).seq (consumes_many_set (fun d hd => ?_) ?_)
  · rw [accepts_wordChar]
    exact hcs d hd
  · rwa [accepts_wordChar]

/-- Type parameters are taken if they are there. -/
private lemma consumes_params (hh : h.IsWritten) (after : Text) :
    optAngles.Consumes true h.params (h.gap ++ ("=" ++ after)) := by
  rcases hh.params with hparams | ⟨inner, hparams, hinner⟩
  · rw [hparams]
    have hhead : (h.gap ++ ("=" ++ after)).head?.any (sameChar true '<') = false := by
      cases hgap : h.gap with
      | nil => exact (by decide : sameChar true '<' '=' = false)
      | cons c gap =>
        have hall : Text.blanks.all (fun c => !sameChar true '<' c) = true := by decide
        have hc := hh.gap c (by rw [hgap]; exact List.mem_cons_self)
        simpa using List.all_eq_true.mp hall c (Text.mem_blanks hc)
    have hangles : (Expr.seq [angles]).StuckAt true (h.gap ++ ("=" ++ after)) :=
      StuckAt.seq (stuckAt_char hhead) _
    exact hangles.opt
  · rw [hparams]
    have hopen : ("<" : Expr).Consumes true "<" (inner ++ ">" ++ (h.gap ++ ("=" ++ after))) :=
      consumes_word "<" _
    have hclose : (">" : Expr).Consumes true ">" (h.gap ++ ("=" ++ after)) := consumes_word ">" _
    have hmany : (many (.except ">")).Consumes true inner (">" ++ (h.gap ++ ("=" ++ after))) :=
      consumes_many_set hinner (by decide : accepts true true [.char '>'] '>' = false)
    have hangles : angles.Consumes true ("<" ++ (inner ++ ">")) (h.gap ++ ("=" ++ after)) :=
      hopen.seq (hmany.seq hclose.seq_one)
    exact Consumes.opt hangles

/-- **The match in a line that begins with a header**: it ends behind the equals sign, if no other
one follows, and its only group is the name.

**Proof sketch.** Each piece is taken by the part of the rule that is meant for it. Only the word
`type` needs care: where it is written it is taken, and where it is not, a name that is `type` could
be taken for it, but nothing leads on from there. -/
theorem find?_typeHeader (hh : h.IsWritten) {after : Text}
    (hafter : after.head?.any (sameChar true '=') = false) :
    pascalType.pattern.find? (h.text ++ after) =
      some ⟨⟨0, h.text.length⟩, [(2, .after h.before h.name)]⟩ := by
  have hgap0 : gap0.Consumes true h.gap ("=" ++ after) :=
    consumes_many_set (fun c hc => by rw [accepts_blank]; exact hh.gap c hc)
      (by decide : accepts true false [.kind .blank false] '=' = false)
  have hequals : ("=" : Expr).Consumes true "=" after := consumes_word "=" after
  have hpieces : (Expr.seq [optAngles, gap0, "="]).Consumes true h.afterName after := by
    refine Consumes.seq ?_ (hgap0.seq hequals.seq_one)
    rw [List.append_assoc]
    exact consumes_params hh after
  have hend : ∀ before groups, (Expr.seq [.notAhead "="]).First true
      (.between before after groups) (.between before after groups) :=
    fun _ _ => first_notAhead (stuckAt_char hafter _ _)
  have hname : (Expr.seq partsAfterType).First true
      (.between h.before (h.name ++ (h.afterName ++ after)) [])
      (.between h.text after [(2, .after h.before h.name)]) := by
    have htext : h.before ++ h.name ++ h.afterName = h.text := by
      rw [TypeHeader.text, List.append_assoc]
    rw [← htext]
    exact ((consumes_name hh after h.before []).group 2).seq
      (First.seq_append (hpieces _ _) (hend _ _))
  have hbody : (Expr.cat (optWord "type") (.seq partsAfterType)).First true
      (.between [] (h.text ++ after) []) (.between h.text after [(2, .after h.before h.name)]) := by
    have htext : h.text ++ after = h.before ++ (h.name ++ (h.afterName ++ after)) := by
      simp only [TypeHeader.text, List.append_assoc]
    rw [htext]
    rcases hh.before with hbefore | ⟨word, blanks, hbefore, hword, hne, hblanks⟩
    · rw [hbefore, List.nil_append]
      rw [hbefore] at hname
      exact first_opt_skip (fun t ht => isStuck_after_type hh rfl ht) hname
    · have htype := consumes_type hword hne hblanks hh (h.afterName ++ after) [] []
      rw [← hbefore] at htype
      exact htype.cat hname
  have hfirst := (first_start (h.text ++ after) []).cat hbody
  rw [find?_of_first (p := pascalType.pattern) hfirst, State.position_between]
  rfl

/-! ## The header of a match -/

/-- A character of ASCII before the capital letters is taken for itself alone. -/
private lemma eq_singleton_of_same {c : Char} (hlt : c.toNat < 65) {v : Text}
    (h : List.Forall₂ (fun c d => sameChar true c d = true) [c] v) : v = [c] := by
  cases h with
  | cons hd hnil =>
    cases hnil
    rw [sameChar, if_pos rfl] at hd
    rw [Text.eq_of_agree (Text.hasNoCase_of_lt hlt) hd]

/-- **A match of the rule has the pieces of a header**, which begins the line, and no further equals
sign follows.

**Proof sketch.** Each part of the rule takes only texts of its kind, and the check for a further
equals sign takes nothing. -/
theorem exists_typeHeader_of_find? {code : Text} {found : Found}
    (hfound : pascalType.pattern.find? code = some found) :
    ∃ h : TypeHeader, ∃ after, h.IsWritten ∧ code = h.text ++ after ∧
      after.head?.any (sameChar true '=') = false := by
  obtain ⟨front, rest, t, hcode, ht, _⟩ := exists_takes_of_find? hfound
  have hfront : front.reverse = [] := passed_of_isAnchored _ _ _ _ rfl ht
  rw [List.reverse_eq_nil_iff.mp hfront, List.nil_append] at hcode
  obtain ⟨s, hs, hend⟩ := takes_seq_append
    [start, optWord "type", Language.name ident, optAngles, gap0, "="] [.notAhead "="] ht
  have htype := ((@takesOnly_word true "type".toList).seq
    (takesOnly_some1_set false [.kind .blank false]).seq_one).opt
  have hname := ((@takesOnly_set true false letters).seq
    (takesOnly_many_set false [.kind .word false]).seq_one).group 2
  have hangles : angles.TakesOnly true _ := (takesOnly_word "<".toList).seq
    ((takesOnly_many_set true [.char '>']).seq (takesOnly_word ">".toList).seq_one)
  have hparams := hangles.seq_one.opt
  obtain ⟨_, hrest, _, _, rfl, rfl, before, _, rfl, hbefore, name, _, rfl,
      ⟨_, cs, rfl, ⟨c, rfl, hc⟩, hcs⟩, params, _, rfl, hparams, gap, equals, rfl, hgap, hequals⟩ :=
    (takesOnly_anchor .textStart).seq (htype.seq (hname.seq (hparams.seq
      ((takesOnly_many_set false [.kind .blank false]).seq
        (takesOnly_word "=".toList).seq_one)))) hs
  rw [accepts_wordChar] at hcs
  rw [accepts_blank] at hgap
  obtain rfl : equals = ['='] := eq_singleton_of_same (by decide) hequals
  refine ⟨⟨before, c :: cs, params, gap⟩, s.rest, ⟨?_, ⟨c, cs, rfl, hc, hcs⟩, ?_, hgap⟩, ?_,
    any_head?_of_takes_notAhead hend⟩
  · refine hbefore.imp_right fun hword => ?_
    obtain ⟨word, blanks, heq, hword, hne, hblanks⟩ := hword
    rw [accepts_blank] at hblanks
    exact ⟨word, blanks, heq, hword, hne, hblanks⟩
  · refine hparams.imp_right fun hangles => ?_
    obtain ⟨opening, _, heq, hopening, inner, closing, rfl, hinner, hclosing⟩ := hangles
    obtain rfl : opening = ['<'] := eq_singleton_of_same (by decide) hopening
    obtain rfl : closing = ['>'] := eq_singleton_of_same (by decide) hclosing
    exact ⟨inner, heq, hinner⟩
  · refine hcode.trans (hrest.trans ?_)
    simp only [TypeHeader.text, TypeHeader.afterName, List.append_assoc, List.nil_append]
    rfl

end DeclIndex.Language
