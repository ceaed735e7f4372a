import DeclIndex.Language.JavaScript
import DeclIndex.Language.TypeScript
import DeclIndex.Proofs.Language.Parts

/-!
# Headers of functions in the script languages

A line that begins with `export`, `default` and `async`, each of them or not, and goes on with
`function`, perhaps a star, a name and an opening parenthesis declares a function of that name in
JavaScript and in TypeScript, whatever follows.

## Main definitions

* `Language.scriptHeader` — the header.

## Main results

* `Language.classify?_scriptHeader` — what a line with such a header declares.
* `Language.visibility_scriptHeader` — who may use it.
-/

namespace DeclIndex.Language

open Pattern Pattern.Expr

/-- What may stand before `function`. -/
def scriptIntro (exported default async : Bool) : Text :=
  perhaps exported "export" ++ (perhaps default "default" ++ perhaps async "async")

/-- The header of a function in the script languages. -/
def scriptHeader (exported default async generator : Bool) (name rest : Text) : Header where
  before := scriptIntro exported default async
  keyword := "function"
  gap := if generator then "* " else " "
  name := name
  rest := '(' :: rest

variable {name : Text}

/-- The words before `function` are passed over by the rule for functions. -/
private lemma consumes_scriptIntro (exported default async : Bool) (after : Text) :
    (Expr.seq [optWord "export", optWord "default", optWord "async"]).Consumes false
      (scriptIntro exported default async) ("function" ++ after) := by
  refine (consumes_optWord exported ?_ ?_).seq
    ((consumes_optWord default ?_ ?_).seq (consumes_optWord async rfl ?_).seq_one)
  · cases default <;> cases async <;> rfl
  · refine StuckAt.seq (stuckAt_char ?_) _
    cases default <;> cases async <;> rfl
  · cases async <;> rfl
  · refine StuckAt.seq (stuckAt_char ?_) _
    cases async <;> rfl
  · exact StuckAt.seq (stuckAt_char rfl) _

/-- Between `function` and the name there may be a star. -/
private lemma consumes_scriptStar (generator : Bool) (hname : name.isName ['$'] = true)
    (after : Text) : (Expr.seq [gap0, opt ["*"], gap0]).Consumes false
      (if generator then "* " else " ") (name ++ after) := by
  have hblank : (name ++ after).head?.any Text.isBlank = false :=
    head?_name (by decide) hname after
  have hstar : (name ++ after).head?.any (sameChar false '*') = false :=
    head?_name (by decide) hname after
  cases generator with
  | true =>
    exact (consumes_gap0 rfl).seq_nil
      ((consumes_word _ _).opt.seq (consumes_gap0_space hblank).seq_one)
  | false =>
    exact (consumes_gap0_space hblank).seq_stay
      ((StuckAt.seq (stuckAt_char hstar) []).opt.seq_stay (consumes_gap0 hblank).seq_one)

/-- The rule for functions reads the header. -/
lemma scriptFunction_reads (exported default async generator : Bool)
    (hname : name.isName ['$'] = true) (rest : Text) :
    scriptFunction.Reads (scriptHeader exported default async generator name rest) := by
  refine Rule.reads_of_consumes (w := ['(']) _
    [optWord "export", optWord "default", optWord "async"] "function" [gap0, opt ["*"], gap0]
    scriptIdent [gap0, optAngles, gap0, "("] rfl ?_ ?_ ?_ ?_ ?_ rfl ?_
  · exact fun after => (first_start after []).alt_left _
  · exact consumes_scriptIntro exported default async _
  · exact consumes_word _ _
  · exact Rule.first_link_of_consumes rfl rfl (consumes_scriptStar generator hname _)
  · exact consumes_scriptIdent hname rfl
  · have hangles : (Expr.seq [angles]).StuckAt false ('(' :: rest) :=
      stuckAt_of_ends_ofText (v := ['(']) (by decide) rest
    exact (consumes_gap0 rfl).seq_nil (hangles.opt.seq_nil ((consumes_gap0 rfl).seq_nil
      (consumes_word _ _).seq_one))

/-- The gate of the rule for functions lets the header in. -/
lemma scriptFunction_applies (exported default async generator : Bool) (name rest : Text) :
    scriptFunction.applies (scriptHeader exported default async generator name rest).text = true := by
  refine Rule.applies_of_keyword rfl (List.mem_singleton_self _) ?_ ?_ ?_
  · exact (by decide : ∀ exported default async,
      (scriptIntro exported default async).getLast?.any (isNeighbour false) = false) _ _ _
  · cases generator <;> rfl
  · cases generator <;> exact List.cons_ne_nil _ _

/-- The two script languages. -/
def script (typed : Bool) : Profile :=
  if typed then typescript else javascript

/-- The rules before the one for functions leave the header to it. -/
private lemma script_passes (typed exported default async generator : Bool) (name rest : Text) :
    ∃ skipped more, (script typed).rules = skipped ++ scriptFunction :: more ∧
      ∀ r ∈ skipped, r.Passes (scriptHeader exported default async generator name rest).text := by
  have hnever : ∀ typed exported default async,
      ((script typed).rules.takeWhile (· ≠ scriptFunction)).all fun r =>
        r.neverClaims (.ofText (scriptIntro exported default async ++ "function")) := by
    decide
  have hsplit : ∀ typed, (script typed).rules =
      (script typed).rules.takeWhile (· ≠ scriptFunction) ++
        scriptFunction :: ((script typed).rules.dropWhile (· ≠ scriptFunction)).tail := by
    decide
  refine ⟨_, _, hsplit typed, fun r hr => ?_⟩
  refine Rule.passes_of_neverClaims
    (List.all_eq_true.mp (hnever typed exported default async) r hr) ?_
  have hfits := Beginning.fits_ofText (scriptIntro exported default async ++ "function")
  simpa [Header.text, scriptHeader] using hfits _

/-- The pieces of the header. -/
lemma isSolid_scriptHeader (exported default async generator : Bool)
    (hname : name.isName ['$'] = true) (rest : Text) :
    (scriptHeader exported default async generator name rest).IsSolid :=
  ⟨rfl, Text.isSolid_of_isName (by decide) hname, Or.inl rfl⟩

/-- The header begins with a word and holds a declaration marker. -/
lemma opensWith_scriptHeader (typed exported default async generator : Bool) (name rest : Text) :
    Profile.OpensWith
      (fun w => (script typed).isControlWord w = false ∨
        (script typed).hasMarker (scriptHeader exported default async generator name rest).text)
      (scriptHeader exported default async generator name rest).text := by
  have hmarker : (script typed).hasMarker
      (scriptHeader exported default async generator name rest).text = true := by
    have happlies := scriptFunction_applies exported default async generator name rest
    cases typed <;> exact happlies
  have htext : (scriptHeader exported default async generator name rest).text =
      perhaps exported "export" ++ (perhaps default "default" ++ (perhaps async "async" ++
        ("function" ++ ((scriptHeader exported default async generator name rest).gap ++
          (name ++ '(' :: rest))))) := by
    simp only [Header.text, scriptHeader, scriptIntro, List.append_assoc, List.nil_append]
  rw [htext] at hmarker ⊢
  refine opensWith_perhaps exported rfl (Or.inr hmarker) ?_
  refine opensWith_perhaps default rfl (Or.inr hmarker) ?_
  refine opensWith_perhaps async rfl (Or.inr hmarker) ?_
  refine opensWith_word rfl (Or.inr hmarker) ?_
  cases generator <;> rfl

/-- **What a line with such a header declares.** -/
theorem classify?_scriptHeader (typed exported default async generator : Bool)
    (hname : name.isName ['$'] = true) (rest : Text) {site : Site}
    (hline : Text.trim site.line =
      (scriptHeader exported default async generator name rest).text) :
    (script typed).classify? site = some
      ((scriptHeader exported default async generator name rest).element (script typed) site) := by
  have hwords : (script typed).opensWithWords = true := by cases typed <;> decide
  obtain ⟨skipped, more, hrules, hskipped⟩ :=
    script_passes typed exported default async generator name rest
  exact Profile.classify?_eq_element hwords hline
    (opensWith_scriptHeader typed exported default async generator name rest)
    (isSolid_scriptHeader exported default async generator hname rest) hrules hskipped (by decide)
    (Or.inl rfl) (scriptFunction_applies exported default async generator name rest)
    (scriptFunction_reads exported default async generator hname rest)

/-- **Who may use it**: everyone if it is exported; otherwise nothing is said. -/
lemma visibility_scriptHeader (typed exported default async : Bool)
    (hname : name.isName ['$'] = true) :
    (script typed).visibility name (scriptIntro exported default async) =
      if exported then .pub else .unspecified := by
  have hwords : ∀ typed exported default async, (script typed).visibilityWords.find?
      ((script typed).saysVisibility (scriptIntro exported default async)) =
        if exported then some (("export" : Text), Visibility.pub) else none := by
    decide +kernel
  cases exported with
  | true => exact Profile.visibility_of_word (hwords typed true default async)
  | false =>
    have hrule : ∀ rule, (script typed).nameRule = some rule →
        rule name = .unspecified := by
      intro rule h
      obtain rfl : rule = .numberSign := by cases typed <;> exact (Option.some.inj h).symm
      have hsign : name.startsWith "#" = false := by
        have hhead : (name ++ []).head?.any ('#' == ·) = false :=
          head?_name (by decide) hname []
        obtain ⟨c, rest, rfl, _⟩ := Text.exists_cons_of_isName hname
        have hfirst : ('#' == c) = false := hhead
        change ('#' == c && true) = false
        rw [hfirst, Bool.false_and]
      rw [NameRule.numberSign, hsign]
      rfl
    rw [Profile.visibility_of_no_word (hwords typed false default async) hrule]
    cases typed <;> rfl

end DeclIndex.Language
