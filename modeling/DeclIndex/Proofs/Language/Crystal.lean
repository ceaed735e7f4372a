import DeclIndex.Language.Crystal
import DeclIndex.Proofs.Language.Parts

/-!
# Headers of methods in Crystal

A line of modifiers in any number and order, then `def` or `macro`, perhaps `self` with a dot, and a
name declares a method of that name. After the name there is nothing, white space or an opening
parenthesis.

## Main definitions

* `Language.crystalHeader` — the header.

## Main results

* `Language.classify?_crystalHeader` — what a line with such a header declares.
* `Language.visibility_crystalHeader` — who may use it.
-/

namespace DeclIndex.Language

open Pattern Pattern.Expr

/-- The words that may stand before the introducing word. -/
def crystalWords : List Text :=
  ["private", "protected", "abstract"]

/-- The introducing words. -/
def crystalDefWords : List Text :=
  ["def", "macro"]

/-- The header of a method in Crystal. -/
def crystalHeader (ms : List Text) (defWord : Text) (onSelf : Bool) (name rest : Text) : Header where
  before := spaced ms
  keyword := defWord
  receiver := if onSelf then "self" else []
  link := if onSelf then "." else []
  name := name
  rest := rest

/-- The rule for methods. -/
def crystalFunction : Rule := crystal.rules[2]

variable {ms : List Text} {defWord name rest : Text}

/-- The words before the introducing word are passed over by the rule for methods. -/
private lemma consumes_crystalWords (hms : ∀ m ∈ ms, m ∈ crystalWords)
    (hword : defWord ∈ crystalDefWords) (after : Text) :
    (modifiers (crystalWords.map word)).Consumes false (spaced ms) (defWord ++ after) := by
  have hhead : ∀ w ∈ crystalDefWords, w.head?.any (fun c => !Text.isBlank c) = true := by
    decide
  have hstuck : ∀ w ∈ crystalDefWords,
      (oneOf (crystalWords.map word)).ends false (.ofText w) = some [] := by
    decide
  exact consumes_modifiers (by decide) (by decide) hms
    (head?_append_of_any (hhead defWord hword) after) (stuckAt_of_ends_ofText (hstuck _ hword) after)

/-- A receiver is read where it is written. -/
private lemma first_crystalLink (hname : name.isName [] = true) (hrest : AfterName rest)
    (ms : List Text) (defWord : Text) (onSelf : Bool) :
    let h := crystalHeader ms defWord onSelf name rest
    (Expr.seq [gap, opt [receiver "self", "."]]).First false
      (.between (h.before ++ h.keyword)
        (h.gap ++ (h.receiver ++ (h.link ++ (h.name ++ h.rest)))) [(1, .after h.before h.keyword)])
      (.between h.upToName (h.name ++ h.rest)
        (h.receiverGroup ++ [(1, .after h.before h.keyword)])) := by
  cases onSelf with
  | true =>
    refine Rule.first_link_of_receiver (List.cons_ne_nil _ _) (consumes_gap rfl)
      fun before groups => ?_
    have hself : (receiver "self").First false _ _ :=
      (consumes_word "self" ("." ++ (name ++ rest)) before groups).group 4
    exact (hself.seq (consumes_word "." (name ++ rest) _ _).seq_one).opt
  | false =>
    have hself := consumes_receiver "self" (by decide) hname hrest
    refine Rule.first_link_of_consumes rfl rfl ((consumes_gap ?_).seq_stay hself.seq_one)
    exact head?_name (by decide) hname rest

/-- The rule for methods reads the header. -/
lemma crystalFunction_reads (hms : ∀ m ∈ ms, m ∈ crystalWords) (hword : defWord ∈ crystalDefWords)
    (onSelf : Bool) (hname : name.isName [] = true) (hrest : AfterName rest) :
    crystalFunction.Reads (crystalHeader ms defWord onSelf name rest) := by
  refine Rule.reads_of_consumes (w := []) start [modifiers (crystalWords.map word)]
    (oneOf (crystalDefWords.map word)) [gap, opt [receiver "self", "."]] _ [] rfl
    ?_ ?_ ?_ ?_ ?_ rfl ?_
  · exact fun after => first_start after []
  · exact (consumes_crystalWords hms hword _).seq_one
  · exact consumes_oneOf (by decide) hword _
  · exact first_crystalLink hname hrest ms defWord onSelf
  · exact (consumes_rubyMethodName hname hrest).alt_left _
  · exact consumes_empty

/-- The gate of the rule for methods lets the header in. -/
lemma crystalFunction_applies (ms : List Text) (hword : defWord ∈ crystalDefWords) (onSelf : Bool)
    (name rest : Text) :
    crystalFunction.applies (crystalHeader ms defWord onSelf name rest).text = true := by
  have hgate : crystalFunction.gate = ofWords crystalFunction.pattern.fold crystalDefWords := rfl
  exact Rule.applies_of_keyword hgate hword (getLast?_spaced (by decide) ms) rfl
    (List.cons_ne_nil _ _)

/-- The rules before the one for methods leave the header to it. -/
private lemma crystal_passes (hms : ∀ m ∈ ms, m ∈ crystalWords) (hword : defWord ∈ crystalDefWords)
    (onSelf : Bool) (name rest : Text) : ∀ r ∈ crystal.rules.take 2,
      r.Passes (crystalHeader ms defWord onSelf name rest).text := by
  have hmodule : ∀ w ∈ crystalDefWords, missesWords (seq ["private", gap])
      (seq [oneOf ["module", "lib"], blank]) false crystalWords w = true := by
    decide
  have htype : ∀ w ∈ crystalDefWords, missesWords (seq [oneOf ["private", "abstract"], gap])
      (seq [crystalTypeWords, blank]) false crystalWords w = true := by
    decide
  intro r hr
  rcases List.mem_cons.mp hr with rfl | hr
  · refine Rule.passes_of_stuckAt rfl rfl ?_
    exact stuckAt_spaced (hmodule _ hword) (some 1) false hms _
  · obtain rfl := List.mem_singleton.mp hr
    refine Rule.passes_of_stuckAt rfl rfl ?_
    exact stuckAt_spaced (htype _ hword) none false hms _

/-- The words of the header open no statement. -/
private lemma isName_of_mem {w : Text} (hw : w ∈ crystalWords ++ crystalDefWords) :
    w.isName [] = true ∧ crystal.isControlWord w = false := by
  have hwords : ∀ w ∈ crystalWords ++ crystalDefWords,
      w.isName [] = true ∧ crystal.isControlWord w = false := by
    decide
  exact hwords w hw

/-- The pieces of the header. -/
lemma isSolid_crystalHeader (ms : List Text) (hword : defWord ∈ crystalDefWords) (onSelf : Bool)
    (hname : name.isName [] = true) (rest : Text) :
    (crystalHeader ms defWord onSelf name rest).IsSolid := by
  refine ⟨Text.isSolid_of_isName (by simp) (isName_of_mem (List.mem_append_right _ hword)).1,
    Text.isSolid_of_isName (by simp) hname, ?_⟩
  cases onSelf with
  | true => exact Or.inr rfl
  | false => exact Or.inl rfl

/-- The header begins with a word that opens no statement. -/
lemma opensWith_crystalHeader (hms : ∀ m ∈ ms, m ∈ crystalWords) (hword : defWord ∈ crystalDefWords)
    (onSelf : Bool) (name rest : Text) :
    Profile.OpensWith
      (fun w => crystal.isControlWord w = false ∨
        crystal.hasMarker (crystalHeader ms defWord onSelf name rest).text = true)
      (crystalHeader ms defWord onSelf name rest).text := by
  have hms' := fun m hm => isName_of_mem (List.mem_append_left crystalDefWords (hms m hm))
  have hword' := isName_of_mem (List.mem_append_right crystalWords hword)
  exact opensWith_spaced (fun m hm => (hms' m hm).1) (fun m hm => Or.inl (hms' m hm).2)
    (opensWith_word hword'.1 (Or.inl hword'.2) rfl)

/-- **What a line with such a header declares.** -/
theorem classify?_crystalHeader (hms : ∀ m ∈ ms, m ∈ crystalWords)
    (hword : defWord ∈ crystalDefWords) (onSelf : Bool) (hname : name.isName [] = true)
    (hrest : AfterName rest) {site : Site}
    (hline : Text.trim site.line = (crystalHeader ms defWord onSelf name rest).text) :
    crystal.classify? site =
      some ((crystalHeader ms defWord onSelf name rest).element crystal site) := by
  have hrules : crystal.rules =
      crystal.rules.take 2 ++ crystalFunction :: crystal.rules.drop 3 := rfl
  exact Profile.classify?_eq_element (by decide) hline
    (opensWith_crystalHeader hms hword onSelf name rest)
    (isSolid_crystalHeader ms hword onSelf hname rest) hrules
    (crystal_passes hms hword onSelf name rest) (by decide) (Or.inr (by decide))
    (crystalFunction_applies ms hword onSelf name rest)
    (crystalFunction_reads hms hword onSelf hname hrest)

/-- **Who may use it**: `private` counts before `protected`; without either everyone. -/
lemma visibility_crystalHeader (hms : ∀ m ∈ ms, m ∈ crystalWords) (name : Text) :
    crystal.visibility name (spaced ms) =
      if ("private" : Text) ∈ ms then .priv else if ("protected" : Text) ∈ ms then .prot
      else .pub := by
  exact Profile.visibility_spaced rfl rfl rfl
    (fun m hm => (isName_of_mem (List.mem_append_left _ (hms m hm))).1) name

end DeclIndex.Language
