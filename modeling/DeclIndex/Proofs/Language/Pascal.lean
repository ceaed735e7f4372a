import DeclIndex.Language.Pascal
import DeclIndex.Proofs.Language.Parts

/-!
# Headers of routines in Pascal

A line that begins with one of the words for routines, perhaps after `class`, and goes on with a name
declares a routine of that name. The name may have the name of a class before it, with a dot. After
the name there is nothing, white space or an opening parenthesis.

Case makes no difference in Pascal, so that the rules are run up to case here.

## Main definitions

* `Language.pascalHeader` — the header.

## Main results

* `Language.classify?_pascalHeader` — what a line with such a header declares.
* `Language.visibility_pascalHeader` — nothing is said of who may use it.
-/

namespace DeclIndex.Language

open Pattern Pattern.Expr

/-- The words for routines. -/
def pascalRoutineWords : List Text :=
  ["function", "procedure", "constructor", "destructor", "operator"]

/-- The header of a routine in Pascal. -/
def pascalHeader (ofClass : Bool) (routine : Text) (owner : Option Text) (name rest : Text) :
    Header where
  before := perhaps ofClass "class"
  keyword := routine
  receiver := owner.getD []
  link := owner.elim [] fun _ => "."
  name := name
  rest := rest

/-- The rule for routines. -/
def pascalRoutine : Rule := pascal.rules[2]

variable {routine name rest : Text} {owner : Option Text}

/-- Type parameters begin with an angle bracket. -/
private lemma stuckAt_angles {t : Text} (h : t.head?.any (sameChar true '<') = false) :
    (Expr.seq [angles]).StuckAt true t :=
  StuckAt.seq (stuckAt_char h) _

/-- A name holds neither dots nor angle brackets, up to case. -/
private lemma sameChar_of_mem (hname : name.isName [] = true) {c d : Char} (hc : c ∈ name)
    (hd : d = '.' ∨ d = '<') : sameChar true d c = false := by
  have hword := (Text.isWord_of_mem_of_isName hname hc).resolve_right List.not_mem_nil
  rcases hd with rfl | rfl
  · exact sameChar_of_isWord (by decide) (Text.hasNoCase_of_lt (by decide)) hword
  · exact sameChar_of_isWord (by decide) (Text.hasNoCase_of_lt (by decide)) hword

/-- Where no owner is written none is read. -/
private lemma stuckAt_owner (hname : name.isName [] = true) (hrest : AfterName rest) :
    (Expr.seq [receiver (seq [ident, optAngles]), "."]).StuckAt true (name ++ rest) := by
  have hhead : ∀ d : Char, d = '.' ∨ d = '<' → ∀ v, v <:+ name →
      (v ++ rest).head?.any (sameChar true d) = false := by
    intro d hd v hv
    refine head?_suffix_append hv (fun c hc => sameChar_of_mem hname hc hd) (hrest.eq_false ?_)
    rcases hd with rfl | rfl <;> decide
  intro before groups
  refine isStuck_cat fun _ htakes => ?_
  obtain ⟨u, ⟨s, hident, hangles⟩, rfl⟩ := htakes
  obtain ⟨v, hv, hs⟩ :=
    ident.exists_suffix_of_takes true (hrest.eq_true (by decide +kernel)) rfl hident
  have hstuck := stuckAt_angles (hhead '<' (Or.inr rfl) v hv)
  rw [← hs] at hstuck
  obtain rfl := hstuck.isStuck.eq_of_opt hangles
  refine StuckAt.isStuck (stuckAt_char ?_)
  rw [hs]
  exact hhead '.' (Or.inl rfl) v hv

/-- An owner is read where it is written. -/
private lemma first_pascalLink (hname : name.isName [] = true) (hrest : AfterName rest)
    (ofClass : Bool) (routine : Text) (howner : ∀ q ∈ owner, q.isName [] = true) :
    let h := pascalHeader ofClass routine owner name rest
    (Expr.seq [gap, opt [receiver (seq [ident, optAngles]), "."]]).First true
      (.between (h.before ++ h.keyword)
        (h.gap ++ (h.receiver ++ (h.link ++ (h.name ++ h.rest)))) [(1, .after h.before h.keyword)])
      (.between h.upToName (h.name ++ h.rest)
        (h.receiverGroup ++ [(1, .after h.before h.keyword)])) := by
  cases owner with
  | some q =>
    have hq := howner q rfl
    refine Rule.first_link_of_receiver ?_ (consumes_gap ?_) fun before groups => ?_
    · obtain ⟨c, cs, rfl, _⟩ := Text.exists_cons_of_isName hq
      exact List.cons_ne_nil c cs
    · exact head?_name (by decide) hq _
    · have hangles := stuckAt_angles (t := "." ++ (name ++ rest)) rfl
      have hident : (seq [ident, optAngles]).Consumes true q ("." ++ (name ++ rest)) :=
        (consumes_ident hq rfl).seq_stay hangles.opt.seq_one
      have howner : (receiver (seq [ident, optAngles])).First true _ _ :=
        (hident before groups).group 4
      exact (howner.seq (consumes_word "." (name ++ rest) _ _).seq_one).opt
  | none =>
    have hstuck := stuckAt_owner hname hrest
    refine Rule.first_link_of_consumes rfl rfl ((consumes_gap ?_).seq_stay hstuck.opt.seq_one)
    exact head?_name (by decide) hname rest

/-- The rule for routines reads the header. -/
lemma pascalRoutine_reads (ofClass : Bool) (hword : routine ∈ pascalRoutineWords)
    (howner : ∀ q ∈ owner, q.isName [] = true) (hname : name.isName [] = true)
    (hrest : AfterName rest) :
    pascalRoutine.Reads (pascalHeader ofClass routine owner name rest) := by
  have hclass : ∀ w ∈ pascalRoutineWords, (word "class").ends true (.ofText w) = some [] ∧
      w.head?.any (fun c => !Text.isBlank c) = true := by
    decide
  refine Rule.reads_of_consumes (w := []) start [optWord "class"]
    (oneOf (pascalRoutineWords.map word)) [gap, opt [receiver (seq [ident, optAngles]), "."]]
    ident [] rfl ?_ ?_ ?_ ?_ ?_ rfl ?_
  · exact fun after => first_start after []
  · refine (consumes_optWord ofClass ?_ ?_).seq_one
    · exact head?_not_of_head? (head?_append_of_any (hclass _ hword).2 _)
    · exact stuckAt_of_ends_ofText (hclass _ hword).1 _
  · exact consumes_oneOf (by decide) hword _
  · exact first_pascalLink hname hrest ofClass routine howner
  · exact consumes_ident hname hrest.isWord_head?
  · exact consumes_empty

/-- The gate of the rule for routines lets the header in. -/
lemma pascalRoutine_applies (ofClass : Bool) (hword : routine ∈ pascalRoutineWords)
    (owner : Option Text) (name rest : Text) :
    pascalRoutine.applies (pascalHeader ofClass routine owner name rest).text = true := by
  have hgate : pascalRoutine.gate = ofWords pascalRoutine.pattern.fold pascalRoutineWords := rfl
  refine Rule.applies_of_keyword hgate hword ?_ rfl (List.cons_ne_nil _ _)
  cases ofClass <;> rfl

/-- The rules before the one for routines leave the header to it. The rule for types reads the first
word of the line as the name of a type and looks for an equals sign after it. -/
private lemma pascal_passes (ofClass : Bool) (hword : routine ∈ pascalRoutineWords)
    (howner : ∀ q ∈ owner, q.isName [] = true) (hname : name.isName [] = true) (rest : Text) :
    ∀ r ∈ pascal.rules.take 2, r.Passes (pascalHeader ofClass routine owner name rest).text := by
  have hnever : ∀ ofClass, ∀ w ∈ pascalRoutineWords, (pascal.rules.take 2).all fun r =>
      r.neverClaims (.ofText (perhaps ofClass "class" ++ (w ++ [' '])) ++ [Text.asciiLetters]) := by
    decide
  obtain ⟨c, after, htext, hc⟩ : ∃ c after,
      (pascalHeader ofClass routine owner name rest).text =
        (perhaps ofClass "class" ++ (routine ++ [' '])) ++ c :: after ∧ c ∈ Text.asciiLetters := by
    have htext : (pascalHeader ofClass routine owner name rest).text =
        (perhaps ofClass "class" ++ (routine ++ [' '])) ++
          (owner.getD [] ++ ((owner.elim [] fun _ => ".") ++ (name ++ rest))) := by
      simp only [Header.text, pascalHeader, List.append_assoc]
    cases owner with
    | none =>
      obtain ⟨c, cs, rfl, hc, _⟩ := Text.exists_cons_of_isName hname
      exact ⟨c, cs ++ rest, htext, Text.mem_asciiLetters (hc.resolve_right List.not_mem_nil)⟩
    | some q =>
      obtain ⟨c, cs, rfl, hc, _⟩ := Text.exists_cons_of_isName (howner q rfl)
      exact ⟨c, cs ++ ("." ++ (name ++ rest)), htext,
        Text.mem_asciiLetters (hc.resolve_right List.not_mem_nil)⟩
  intro r hr
  refine Rule.passes_of_neverClaims (List.all_eq_true.mp (hnever ofClass routine hword) r hr) ?_
  rw [htext]
  exact Beginning.fits_ofText_append hc _ after

/-- The words for routines open no statement. -/
private lemma isName_of_mem_pascalRoutineWords (hword : routine ∈ pascalRoutineWords) :
    routine.isName [] = true ∧ pascal.isControlWord routine = false := by
  have hwords : ∀ w ∈ pascalRoutineWords, w.isName [] = true ∧ pascal.isControlWord w = false := by
    decide
  exact hwords routine hword

/-- The pieces of the header. -/
lemma isSolid_pascalHeader (ofClass : Bool) (hword : routine ∈ pascalRoutineWords)
    (howner : ∀ q ∈ owner, q.isName [] = true) (hname : name.isName [] = true) (rest : Text) :
    (pascalHeader ofClass routine owner name rest).IsSolid := by
  refine ⟨Text.isSolid_of_isName (by simp) (isName_of_mem_pascalRoutineWords hword).1,
    Text.isSolid_of_isName (by simp) hname, ?_⟩
  cases owner with
  | none => exact Or.inl rfl
  | some q => exact Or.inr (Text.isSolid_of_isName (by simp) (howner q rfl))

/-- The header begins with a word that opens no statement. -/
lemma opensWith_pascalHeader (ofClass : Bool) (hword : routine ∈ pascalRoutineWords)
    (owner : Option Text) (name rest : Text) :
    Profile.OpensWith
      (fun w => pascal.isControlWord w = false ∨
        pascal.hasMarker (pascalHeader ofClass routine owner name rest).text = true)
      (pascalHeader ofClass routine owner name rest).text :=
  opensWith_perhaps ofClass rfl (Or.inl (by decide))
    (opensWith_word (isName_of_mem_pascalRoutineWords hword).1
      (Or.inl (isName_of_mem_pascalRoutineWords hword).2) rfl)

/-- **What a line with such a header declares.** -/
theorem classify?_pascalHeader (ofClass : Bool) (hword : routine ∈ pascalRoutineWords)
    (howner : ∀ q ∈ owner, q.isName [] = true) (hname : name.isName [] = true)
    (hrest : AfterName rest) {site : Site}
    (hline : Text.trim site.line = (pascalHeader ofClass routine owner name rest).text) :
    pascal.classify? site =
      some ((pascalHeader ofClass routine owner name rest).element pascal site) := by
  have hrules : pascal.rules = pascal.rules.take 2 ++ pascalRoutine :: pascal.rules.drop 3 := rfl
  exact Profile.classify?_eq_element (by decide) hline
    (opensWith_pascalHeader ofClass hword owner name rest)
    (isSolid_pascalHeader ofClass hword howner hname rest) hrules
    (pascal_passes ofClass hword howner hname rest) (by decide) (Or.inr (by decide))
    (pascalRoutine_applies ofClass hword owner name rest)
    (pascalRoutine_reads ofClass hword howner hname hrest)

/-- **Who may use it**: nothing is said. -/
lemma visibility_pascalHeader (ofClass : Bool) (name : Text) :
    pascal.visibility name (perhaps ofClass "class") = .unspecified :=
  Profile.visibility_of_no_word rfl fun _ h => nomatch h

end DeclIndex.Language
