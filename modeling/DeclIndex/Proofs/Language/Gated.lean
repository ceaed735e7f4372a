import DeclIndex.Language.Go
import DeclIndex.Language.Php
import DeclIndex.Language.Python
import DeclIndex.Language.Rust
import DeclIndex.Language.Zig
import DeclIndex.Proofs.Language.Parts

/-!
# Headers behind a rule that may claim the line

In several languages the first rule has a gate that is not anchored: it is for a word, or for the
value of a constant, anywhere in the line. If a line begins with the header of a function and the
gate lets it in for what stands further on, the rule claims the line and finds nothing, so that the
function is lost. Otherwise the line declares the function.

The gates of all other rules before the one for functions are anchored and let no such line in.

## Main definitions

* `Language.GatedForm` — the forms of headers.
* `Language.GatedForm.Claims` — the lines that the first rule claims.

## Main results

* `Language.elements_of_gated_header` — a line with such a header declares exactly its function, or
  nothing if the first rule claims it.
-/

namespace DeclIndex.Language

open Pattern Pattern.Expr

/-- The forms of headers, each with the word that may stand before the introducing one. -/
inductive GatedForm
  | python (async : Bool)
  | ruby
  | go
  | rust (isPub : Bool)
  | php
  | zig (isPub : Bool)
  deriving DecidableEq, Repr

namespace GatedForm

/-- All forms. -/
def all : List GatedForm :=
  [python false, python true, ruby, go, rust false, rust true, php, zig false, zig true]

lemma mem_all (f : GatedForm) : f ∈ all := by
  cases f with
  | python async => cases async <;> decide
  | rust isPub => cases isPub <;> decide
  | zig isPub => cases isPub <;> decide
  | ruby | go | php => decide

/-- The language of a header. -/
def profile : GatedForm → Profile
  | python _ => Language.python
  | ruby => Language.ruby
  | go => Language.go
  | rust _ => Language.rust
  | php => Language.php
  | zig _ => Language.zig

/-- What stands before the introducing word. -/
def before : GatedForm → Text
  | python async => perhaps async "async"
  | rust isPub => perhaps isPub "pub"
  | zig isPub => perhaps isPub "pub"
  | _ => []

/-- The introducing word. -/
def keyword : GatedForm → Text
  | python _ => "def"
  | ruby => "def"
  | go => "func"
  | rust _ => "fn"
  | php => "function"
  | zig _ => "fn"

/-- The header of a function with a name, an opening parenthesis and what follows it. -/
def header (f : GatedForm) (name rest : Text) : Header where
  before := f.before
  keyword := f.keyword
  name := name
  rest := '(' :: rest

/-- The lines that the first rule claims: a word stands alone somewhere in the line or, in Zig, an
equals sign stands before a word for types. -/
def Claims (f : GatedForm) (line : Text) : Prop :=
  match f with
  | python _ => Stands false "class" line
  | ruby => Stands false "module" line
  | go => Stands false "package" line
  | rust _ => Stands false "mod" line
  | php => Stands false "namespace" line
  | zig _ => (pattern [zigTypeValue, zigTypeWords, edge]).occursIn line = true

/-! ## The rules -/

/-- The first rule. -/
def firstRule : GatedForm → Rule
  | python _ => Language.python.rules[0]
  | ruby => Language.ruby.rules[0]
  | go => Language.go.rules[0]
  | rust _ => Language.rust.rules[0]
  | php => Language.php.rules[0]
  | zig _ => Language.zig.rules[0]

/-- The rules between the first one and the one for functions. -/
def anchoredRules : GatedForm → List Rule
  | python _ => []
  | ruby => [Language.ruby.rules[1]]
  | go => [Language.go.rules[1], Language.go.rules[2]]
  | rust _ => [Language.rust.rules[1]]
  | php => [Language.php.rules[1]]
  | zig _ => []

/-- The rule for functions. -/
def functionRule : GatedForm → Rule
  | python _ => Language.python.rules[1]
  | ruby => Language.ruby.rules[2]
  | go => Language.go.rules[3]
  | rust _ => Language.rust.rules[2]
  | php => Language.php.rules[2]
  | zig _ => Language.zig.rules[1]

/-- The rules of the language in their order. -/
lemma rules_eq (f : GatedForm) : f.profile.rules =
    f.firstRule :: (f.anchoredRules ++
      f.functionRule :: f.profile.rules.drop (f.anchoredRules.length + 2)) := by
  cases f <;> rfl

/-- The gate of the first rule lets in the lines that the rule claims. -/
lemma applies_firstRule_iff (f : GatedForm) (line : Text) :
    f.firstRule.applies line = true ↔ f.Claims line := by
  have hword : ∀ {r : Rule} {w : Text}, r.gate = ofWords false [w] → r.pattern.fold = false →
      (r.applies line = true ↔ Stands false w line) := by
    intro r w hgate hfold
    rw [Rule.applies_iff_stands (hfold.symm ▸ hgate) (List.cons_ne_nil _ _), hfold]
    simp
  cases f with
  | python | ruby | go | rust | php => exact hword rfl rfl
  | zig => exact Iff.rfl

variable {name : Text}

/-- The text of a header begins with the words before the name. -/
lemma text_header (f : GatedForm) (name rest : Text) :
    (f.header name rest).text = f.before ++ f.keyword ++ ' ' :: (name ++ '(' :: rest) := by
  simp only [Header.text, header, List.append_assoc]
  rfl

/-- The pattern of the first rule finds nothing in a header. -/
lemma find?_firstRule (f : GatedForm) (name rest : Text) :
    f.firstRule.pattern.find? (f.header name rest).text = none := by
  have hnever : ∀ f ∈ all,
      f.firstRule.pattern.neverBegins (.ofText (f.before ++ f.keyword)) = true := by
    decide
  rw [text_header]
  exact find?_eq_none_of_neverBegins (hnever f f.mem_all) (Beginning.fits_ofText _ _)

/-- No member of a group of types in Go stands in a line that begins like a function. The gate for
members passes the introducing word and the space after it. In the name it may pass a word for types,
but not the parenthesis after the name, and it asks for a brace. -/
private lemma goMember_passes (hname : name.isName [] = true) (rest : Text) :
    Language.go.rules[2].Passes ("func" ++ ' ' :: (name ++ '(' :: rest)) := by
  have hbrace : ∀ v, v <:+ name →
      (Expr.seq [gap0, openBrace, .notAhead (seq [gap0, closeBrace])]).StuckAt false
        (v ++ '(' :: rest) := by
    intro v hv
    refine stuckAt_cat_of_avoids (avoids_head? (by decide)) fun u hu => ?_
    refine StuckAt.seq (stuckAt_char ?_) _
    refine head?_suffix_append (hu.trans hv) (fun c hc => ?_) rfl
    exact sameChar_false_of_isWord (by decide)
      ((Text.isWord_of_mem_of_isName hname hc).resolve_right List.not_mem_nil)
  have htype : ∀ v, v <:+ ("func " : Text) →
      (Expr.seq [oneOf ["struct", "interface"], gap0, openBrace,
        .notAhead (seq [gap0, closeBrace])]).StuckAt false (v ++ (name ++ '(' :: rest)) := by
    have hwords : ("func " : Text).all (fun c =>
        (oneOf ["struct", "interface"]).ends false (.ofText [c]) = some []) = true := by
      decide
    intro v hv
    cases v with
    | nil => exact stuckAt_cat_of_avoids (t := name) (avoids_head? (by decide)) hbrace
    | cons c v =>
      have hc := List.all_eq_true.mp hwords c (hv.subset List.mem_cons_self)
      exact StuckAt.seq (stuckAt_of_ends_ofText (of_decide_eq_true hc) _) _
  refine Rule.passes_of_stuckAt rfl rfl ?_
  refine stuckAt_cat_of_avoids (avoids_head? (by decide)) fun v hv => ?_
  have hspace : v ++ ' ' :: (name ++ '(' :: rest) = (v ++ [' ']) ++ (name ++ '(' :: rest) :=
    List.append_cons v ' ' _
  rw [hspace]
  refine stuckAt_cat_of_avoids ?_ fun u hu => htype u (hu.trans ?_)
  · obtain ⟨c, cs, rfl, hc, _⟩ := Text.exists_cons_of_isName hname
    have hletters : Text.asciiLetters.all (fun c => gap.avoids c false) = true := by decide
    have hmem := Text.mem_asciiLetters (hc.resolve_right List.not_mem_nil)
    exact avoids_head? (List.all_eq_true.mp hletters c hmem)
  · obtain ⟨t, ht⟩ := hv
    refine ⟨t, ?_⟩
    rw [← List.append_assoc, ht]
    rfl

/-- The rules between the first one and the one for functions leave the header to it. -/
private lemma anchoredRules_pass (f : GatedForm) (hname : name.isName [] = true) (rest : Text) :
    ∀ r ∈ f.anchoredRules, r.Passes (f.header name rest).text := by
  have hnever : ∀ f ∈ all, ∀ r ∈ f.anchoredRules.take 1,
      r.neverClaims (.ofText (f.before ++ f.keyword)) = true := by
    decide
  have hfirst : ∀ r ∈ f.anchoredRules.take 1, r.Passes (f.header name rest).text := by
    intro r hr
    rw [text_header]
    exact Rule.passes_of_neverClaims (hnever f f.mem_all r hr) (Beginning.fits_ofText _ _)
  cases f with
  | go => exact List.forall_mem_cons.mpr ⟨hfirst _ List.mem_cons_self,
      List.forall_mem_singleton.mpr (goMember_passes hname rest)⟩
  | python | ruby | rust | php | zig => exact hfirst

/-! ## The rule for functions -/

/-- A space stands between the introducing word and the name. -/
private lemma consumes_gap_name (hname : name.isName [] = true) (rest : Text) :
    gap.Consumes false [' '] (name ++ '(' :: rest) :=
  consumes_gap (head?_name (by decide) hname _)

/-- The visibility in Rust. -/
private lemma consumes_rustVisibility (isPub : Bool) (after : Text) :
    rustVisibility.Consumes false (perhaps isPub "pub") ("fn" ++ after) := by
  cases isPub with
  | true =>
    have hparens : (Expr.seq [parens]).StuckAt false (' ' :: ("fn" ++ after)) :=
      StuckAt.seq (stuckAt_char rfl) _
    exact ((consumes_word "pub" _).seq (hparens.opt.seq_nil (consumes_gap rfl).seq_one)).opt
  | false => exact (StuckAt.seq (StuckAt.seq (stuckAt_char rfl) _) _).opt

/-- An opening parenthesis right after the name. -/
private lemma consumes_gap0_paren (rest : Text) :
    (Expr.seq [gap0, "("]).Consumes false ['('] rest :=
  (consumes_gap0 rfl).seq_nil (consumes_word _ _).seq_one

private lemma pythonFunction_reads (async : Bool) (hname : name.isName [] = true) (rest : Text) :
    (python async).functionRule.Reads ((python async).header name rest) := by
  have hopening : accepts false false ("([".toList.map .char) '(' = true := by decide
  refine Rule.reads_of_consumes (w := ['(']) start [optWord "async"] "def" [gap] ident
    [gap0, .among "(["] rfl (fun after => first_start after []) ?_ (consumes_word _ _)
    (Rule.first_link_of_consumes rfl rfl (consumes_gap_name hname rest).seq_one)
    (consumes_ident hname rfl) rfl ?_
  · refine (consumes_optWord async rfl ?_).seq_one
    exact StuckAt.seq (stuckAt_char rfl) _
  · exact (consumes_gap0 rfl).seq_nil (Consumes.seq_one (consumes_set hopening _))

/-- No modifier is written, since none begins like the introducing word, and no receiver, since no dot
stands in the name or after it. -/
private lemma rubyFunction_reads (hname : name.isName [] = true) (rest : Text) :
    ruby.functionRule.Reads (ruby.header name rest) := by
  have hafter : AfterName ('(' :: rest) := fun c hc => Or.inr (Option.some.inj hc).symm
  refine Rule.reads_of_consumes (w := []) start
    [opt [oneOf ["private", "protected", "public", "module_function"], gap]] "def"
    [gap, opt [receiver (oneOf ["self", capitalIdent]), "."]] _ [] rfl
    (fun after => first_start after []) ?_ (consumes_word _ _)
    (Rule.first_link_of_consumes rfl rfl
      ((consumes_gap_name hname rest).seq_stay (Consumes.seq_one ?_)))
    ((consumes_rubyMethodName hname hafter).alt_left _) rfl consumes_empty
  · refine Consumes.seq_one (StuckAt.opt (StuckAt.seq ?_ _))
    exact stuckAt_of_ends_ofText (v := "def") (by decide) _
  · exact consumes_receiver _ (by decide +kernel) hname hafter

/-- A receiver would begin with a parenthesis, as type parameters would with a bracket. -/
private lemma goFunction_reads (hname : name.isName [] = true) (rest : Text) :
    go.functionRule.Reads (go.header name rest) := by
  refine Rule.reads_of_consumes (w := ['(']) start [] "func"
    [gap, opt ["(", gap0, opt [some1 wordChar, gap], opt ["*"], receiver (some1 wordChar),
      opt [brackets], gap0, ")", gap0]] ident [gap0, opt [brackets], "("] rfl
    (fun after => first_start after []) consumes_empty (consumes_word _ _)
    (Rule.first_link_of_consumes rfl rfl
      ((consumes_gap_name hname rest).seq_stay (Consumes.seq_one ?_)))
    (consumes_ident hname rfl) rfl ?_
  · refine StuckAt.opt (StuckAt.seq (stuckAt_char ?_) _)
    exact head?_name (by decide) hname _
  · have hbrackets : (Expr.seq [brackets]).StuckAt false ('(' :: rest) :=
      StuckAt.seq (stuckAt_char rfl) _
    exact (consumes_gap0 rfl).seq_nil (hbrackets.opt.seq_nil (consumes_word _ _).seq_one)

private lemma rustFunction_reads (isPub : Bool) (hname : name.isName [] = true) (rest : Text) :
    (rust isPub).functionRule.Reads ((rust isPub).header name rest) := by
  refine Rule.reads_of_consumes (w := []) start [rustVisibility,
    modifiers ["const", "async", "unsafe", "default",
      seq ["extern", opt [gap, "\"", many (.except "\""), "\""]]]] "fn" [gap] ident [] rfl
    (fun after => first_start after []) ?_ (consumes_word _ _)
    (Rule.first_link_of_consumes rfl rfl (consumes_gap_name hname rest).seq_one)
    (consumes_ident hname rfl) rfl consumes_empty
  refine (consumes_rustVisibility isPub _).seq_stay (Consumes.seq_one (StuckAt.many ?_))
  exact StuckAt.seq (stuckAt_of_ends_ofText (v := "fn") (by decide) _) _

private lemma phpFunction_reads (hname : name.isName [] = true) (rest : Text) :
    php.functionRule.Reads (php.header name rest) := by
  refine Rule.reads_of_consumes (w := ['(']) start
    [modifiers ["public", "private", "protected", "static", "abstract", "final"]] "function"
    [gap, opt ["&"]] ident [gap0, "("] rfl (fun after => first_start after []) ?_
    (consumes_word _ _)
    (Rule.first_link_of_consumes rfl rfl
      ((consumes_gap_name hname rest).seq_stay (Consumes.seq_one ?_)))
    (consumes_ident hname rfl) rfl (consumes_gap0_paren rest)
  · refine Consumes.seq_one (StuckAt.many (StuckAt.seq ?_ _))
    exact stuckAt_of_ends_ofText (v := "function") (by decide) _
  · exact StuckAt.opt (stuckAt_char (head?_name (by decide) hname _))

private lemma zigFunction_reads (isPub : Bool) (hname : name.isName [] = true) (rest : Text) :
    (zig isPub).functionRule.Reads ((zig isPub).header name rest) := by
  have hmodifiers : ∀ after, (oneOf ["export", "extern", "inline", "noinline"]).StuckAt false
      ("fn" ++ after) := stuckAt_of_ends_ofText (by decide)
  refine Rule.reads_of_consumes (w := ['(']) start
    [optWord "pub", modifiers ["export", "extern", "inline", "noinline"]] "fn" [gap] ident
    [gap0, "("] rfl (fun after => first_start after []) ?_ (consumes_word _ _)
    (Rule.first_link_of_consumes rfl rfl (consumes_gap_name hname rest).seq_one)
    (consumes_ident hname rfl) rfl (consumes_gap0_paren rest)
  refine (consumes_optWord isPub rfl ?_).seq_stay (Consumes.seq_one (StuckAt.many ?_))
  · exact StuckAt.seq (stuckAt_char rfl) _
  · exact StuckAt.seq (hmodifiers _) _

/-- The rule for functions reads the header. -/
lemma functionRule_reads (f : GatedForm) (hname : name.isName [] = true) (rest : Text) :
    f.functionRule.Reads (f.header name rest) := by
  cases f with
  | python async => exact pythonFunction_reads async hname rest
  | ruby => exact rubyFunction_reads hname rest
  | go => exact goFunction_reads hname rest
  | rust isPub => exact rustFunction_reads isPub hname rest
  | php => exact phpFunction_reads hname rest
  | zig isPub => exact zigFunction_reads isPub hname rest

/-- The gate of the rule for functions lets the header in. -/
lemma functionRule_applies (f : GatedForm) (name rest : Text) :
    f.functionRule.applies (f.header name rest).text = true := by
  have hgate : f.functionRule.gate = ofWords f.functionRule.pattern.fold [f.keyword] := by
    cases f <;> rfl
  have hbefore : ∀ f ∈ all, f.before.getLast?.any (isNeighbour f.functionRule.pattern.fold) = false ∧
      isNeighbour f.functionRule.pattern.fold ' ' = false := by
    decide
  exact Rule.applies_of_keyword hgate (List.mem_singleton_self _) (hbefore f f.mem_all).1
    (hbefore f f.mem_all).2 (List.cons_ne_nil _ _)

/-! ## Lines with such a header -/

/-- The pieces of the header. -/
lemma isSolid_header (f : GatedForm) (hname : name.isName [] = true) (rest : Text) :
    (f.header name rest).IsSolid := by
  refine ⟨?_, Text.isSolid_of_isName (by simp) hname, Or.inl rfl⟩
  cases f <;> rfl

/-- The header begins with a word that opens no statement. -/
lemma opensWith_header (f : GatedForm) (name rest : Text) :
    Profile.OpensWith
      (fun w => f.profile.isControlWord w = false ∨
        f.profile.hasMarker (f.header name rest).text = true) (f.header name rest).text := by
  have hall : ∀ f ∈ all, ∀ w ∈ [f.keyword, "async", "pub"],
      f.profile.isControlWord w = false := by
    decide
  have hcontrol : ∀ w ∈ [f.keyword, "async", "pub"], f.profile.isControlWord w = false ∨
      f.profile.hasMarker (f.header name rest).text = true :=
    fun w hw => Or.inl (hall f f.mem_all w hw)
  have hkeyword : Profile.OpensWith
      (fun w => f.profile.isControlWord w = false ∨
        f.profile.hasMarker (f.header name rest).text = true)
      (f.keyword ++ ' ' :: (name ++ '(' :: rest)) := by
    refine opensWith_word ?_ (hcontrol f.keyword (by simp)) rfl
    cases f <;> rfl
  rw [text_header, List.append_assoc]
  cases f with
  | python async => exact opensWith_perhaps async rfl (hcontrol "async" (by simp)) hkeyword
  | rust isPub => exact opensWith_perhaps isPub rfl (hcontrol "pub" (by simp)) hkeyword
  | zig isPub => exact opensWith_perhaps isPub rfl (hcontrol "pub" (by simp)) hkeyword
  | ruby | go | php => exact hkeyword

/-- **What a line with such a header declares**: nothing if the gate of the first rule lets it in,
and otherwise its function. -/
theorem classify?_header (f : GatedForm) (hname : name.isName [] = true) (rest : Text) {site : Site}
    (hline : Text.trim site.line = (f.header name rest).text) :
    f.profile.classify? site =
      if f.firstRule.applies (f.header name rest).text then none
      else some ((f.header name rest).element f.profile site) := by
  have hprofile : ∀ f ∈ all, f.profile.opensWithWords = true ∧ f.firstRule.topLevel = false ∧
      f.firstRule.gate.isSome = true ∧ f.functionRule.isForFunctions = true := by
    decide
  obtain ⟨hwords, htop, hgate, hrule⟩ := hprofile f f.mem_all
  refine Profile.classify?_of_header hwords hline (f.opensWith_header name rest) ?_
  rw [f.rules_eq]
  exact Profile.applyRules_of_gated (f.isSolid_header hname rest) htop hgate
    (f.find?_firstRule name rest) (f.anchoredRules_pass hname rest) hrule (Or.inl rfl)
    (f.functionRule_applies name rest) (f.functionRule_reads hname rest) site _

end GatedForm

/-- **A line with such a header declares exactly its function, or nothing if the first rule claims
it**, whatever follows the name and whatever stands in the lines around.

**Proof sketch.** The line is code, since it opens with a word that is no control word. If the gate
of the first rule lets it in, the rule claims the line and finds nothing, since its pattern cannot
begin like a function. Otherwise the rules up to the one for functions pass the line over, since
their gates are anchored, and the one for functions reads it. -/
theorem elements_of_gated_header (f : GatedForm) {name : Text} (hname : name.isName [] = true)
    (rest : Text) {lines : List Text} {i : Nat}
    (hline : lines[i]? = some (f.header name rest).text) :
    (f.Claims (Text.trim (f.header name rest).text) →
      (f.profile.elements lines).filter (fun e => e.line = (i : Int) + 1) = []) ∧
    (¬ f.Claims (Text.trim (f.header name rest).text) →
      ∃ e, (f.profile.elements lines).filter (fun e => e.line = (i : Int) + 1) = [e] ∧
        e.name = name ∧ e.keyword = f.keyword ∧ e.kind = .function ∧ e.parent = []) := by
  have hopens := (f.opensWith_header name rest).head?_isBlank
  have htrim : Text.trim (f.header name rest).text =
      (f.header name (Text.trimEnd rest)).text := by
    rw [Header.trim_text_unindented (f.isSolid_header hname rest) hopens]
    exact congrArg (fun t => Header.text { f.header name rest with rest := t })
      (Text.trimEnd_cons rfl rest)
  have hspelling : ∀ f ∈ GatedForm.all, f.profile.spelling f.keyword = f.keyword := by
    decide
  have hkind := f.profile.kindOf_unindented .function hopens
  rw [Profile.filter_elements_of_getElem? hline, f.classify?_header hname _ htrim,
    ← f.applies_firstRule_iff, htrim]
  constructor
  · intro hclaims
    rw [if_pos hclaims]
    rfl
  · intro hclaims
    rw [if_neg hclaims]
    exact ⟨_, rfl, rfl, hspelling f f.mem_all, hkind, rfl⟩

/-- A function of Rust in a line that holds no `mod`, and one in a line with a comment that does. -/
theorem elements_of_gated_header_rust :
    (∃ e, (Language.rust.elements ["mod a;", "pub fn load(path: &str) -> A"]).filter
        (fun e => e.line = 2) = [e] ∧
      e.name = "load" ∧ e.keyword = "fn" ∧ e.kind = .function ∧ e.parent = []) ∧
    (Language.rust.elements ["pub fn load(path: &str) -> A // mod"]).filter (fun e => e.line = 1) =
      [] := by
  have hname : Text.isName "load" [] = true := by decide
  have hfree : ¬ (GatedForm.rust true).Claims (Text.trim "pub fn load(path: &str) -> A") := by
    rw [← GatedForm.applies_firstRule_iff]
    decide +kernel
  have hclaims : (GatedForm.rust true).Claims (Text.trim "pub fn load(path: &str) -> A // mod") := by
    rw [← GatedForm.applies_firstRule_iff]
    decide +kernel
  exact ⟨(elements_of_gated_header (.rust true) hname "path: &str) -> A" (i := 1) rfl).2 hfree,
    (elements_of_gated_header (.rust true) hname "path: &str) -> A // mod" (i := 0) rfl).1 hclaims⟩

/-- A default value that holds the word for types is enough for a function of Python to be lost. -/
theorem elements_def_of_class_default :
    ¬ ∃ e ∈ Language.python.elements ["def make(kind=\"class\"):"],
      e.name = "make" ∧ (e.kind = .function ∨ e.kind = .method) := by
  have hnone : Language.python.elements ["def make(kind=\"class\"):"] = [] := by decide +kernel
  rw [hnone]
  simp

end DeclIndex.Language
