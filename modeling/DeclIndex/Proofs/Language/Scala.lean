import DeclIndex.Language.Scala
import DeclIndex.Proofs.Language.Parts

/-!
# Headers of functions in Scala

A line of modifiers in any number and order, then `def` and a name, declares a function of that name.
What follows the name is any text that does not go on with a word character.

## Main definitions

* `Language.scalaHeader` — the header.

## Main results

* `Language.classify?_scalaHeader` — what a line with such a header declares.
* `Language.visibility_scalaHeader` — who may use it.
-/

namespace DeclIndex.Language

open Pattern Pattern.Expr

/-- The words that may stand before `def`. -/
def scalaWords : List Text :=
  ["private", "protected", "final", "override", "implicit", "inline", "abstract"]

/-- The header of a function in Scala. -/
def scalaHeader (ms : List Text) (name rest : Text) : Header where
  before := spaced ms
  keyword := "def"
  name := name
  rest := rest

/-- The rule for functions. -/
def scalaFunction : Rule := scala.rules[2]

variable {ms : List Text} {name rest : Text}

/-- The words before `def` are passed over by the rule for functions. -/
private lemma consumes_scalaWords (hms : ∀ m ∈ ms, m ∈ scalaWords) (after : Text) :
    (scalaQualified (scalaWords.map word)).Consumes false (spaced ms) ("def" ++ after) := by
  have hapart : tellsApart false scalaWords = true := by decide
  have hsolid : ∀ w ∈ scalaWords, w.head?.any (fun c => !Text.isBlank c) = true := by
    decide
  refine consumes_many_spaced (fun w hw rest hrest => ?_) (fun m hm => hsolid m (hms m hm)) rfl ?_
  · have hbracket : (Expr.seq ["[", some1 wordChar, "]"]).StuckAt false (' ' :: rest) :=
      StuckAt.seq (stuckAt_char rfl) _
    refine (consumes_oneOf hapart (hms w hw) rest).seq (hbracket.opt.seq_nil (Consumes.seq_one ?_))
    exact consumes_gap (head?_not_of_head? hrest)
  · exact StuckAt.seq (stuckAt_of_ends_ofText (by decide) after) _

/-- The rule for functions reads the header. -/
lemma scalaFunction_reads (hms : ∀ m ∈ ms, m ∈ scalaWords) (hname : name.isName [] = true)
    (hrest : rest.head?.any Text.isWord = false) : scalaFunction.Reads (scalaHeader ms name rest) := by
  refine Rule.reads_of_consumes (w := []) start [scalaQualified (scalaWords.map word)] "def" [gap]
    _ [] rfl ?_ ?_ ?_ ?_ ?_ rfl ?_
  · exact fun after => first_start after []
  · exact (consumes_scalaWords hms _).seq_one
  · exact consumes_word _ _
  · refine Rule.first_link_of_consumes rfl rfl (Consumes.seq_one (consumes_gap ?_))
    exact head?_name (by decide) hname rest
  · exact (consumes_ident hname hrest).alt_left _
  · exact consumes_empty

/-- The gate of the rule for functions lets the header in. -/
lemma scalaFunction_applies (ms : List Text) (name rest : Text) :
    scalaFunction.applies (scalaHeader ms name rest).text = true :=
  Rule.applies_of_keyword rfl (List.mem_singleton_self _) (getLast?_spaced (by decide) ms) rfl
    (List.cons_ne_nil _ _)

/-- The rules before the one for functions leave the header to it. -/
private lemma scala_passes (hms : ∀ m ∈ ms, m ∈ scalaWords) (name rest : Text) :
    ∀ r ∈ scala.rules.take 2, r.Passes (scalaHeader ms name rest).text := by
  have hpackage : ∀ w ∈ ("def" : Text) :: scalaWords,
      scala.rules[0].neverClaims (.ofText w) = true := by
    decide
  have htype : missesWords
      (seq [oneOf ["private", "protected", "final", "sealed", "abstract", "implicit", "case", "lazy",
        "override", "package"], opt ["[", some1 wordChar, "]"], gap])
      (seq [scalaTypeWords, blank]) false scalaWords "def" = true := by
    decide
  intro r hr
  rcases List.mem_cons.mp hr with rfl | hr
  · obtain ⟨w, hw, after, htext⟩ := exists_first_of_spaced hms "def" ([' '] ++ (name ++ rest))
    refine Rule.passes_of_neverClaims (hpackage w hw) ?_
    have hfits := Beginning.fits_ofText w after
    rw [← htext] at hfits
    exact hfits
  · obtain rfl := List.mem_singleton.mp hr
    exact Rule.passes_of_stuckAt rfl rfl (stuckAt_spaced htype none false hms (name ++ rest))

/-- The pieces of the header. -/
lemma isSolid_scalaHeader (ms : List Text) (hname : name.isName [] = true) (rest : Text) :
    (scalaHeader ms name rest).IsSolid :=
  ⟨rfl, Text.isSolid_of_isName (by simp) hname, Or.inl rfl⟩

/-- The header begins with a word that opens no statement. -/
lemma opensWith_scalaHeader (hms : ∀ m ∈ ms, m ∈ scalaWords) (name rest : Text) :
    Profile.OpensWith
      (fun w => scala.isControlWord w = false ∨
        scala.hasMarker (scalaHeader ms name rest).text = true) (scalaHeader ms name rest).text := by
  have hwords : ∀ w ∈ scalaWords, w.isName [] = true ∧ scala.isControlWord w = false := by
    decide
  exact opensWith_spaced (fun m hm => (hwords m (hms m hm)).1)
    (fun m hm => Or.inl (hwords m (hms m hm)).2)
    (opensWith_word (w := "def") rfl (Or.inl (by decide)) rfl)

/-- **What a line with such a header declares.** -/
theorem classify?_scalaHeader (hms : ∀ m ∈ ms, m ∈ scalaWords) (hname : name.isName [] = true)
    (hrest : rest.head?.any Text.isWord = false) {site : Site}
    (hline : Text.trim site.line = (scalaHeader ms name rest).text) :
    scala.classify? site = some ((scalaHeader ms name rest).element scala site) := by
  have hrules : scala.rules = scala.rules.take 2 ++ scalaFunction :: scala.rules.drop 3 := rfl
  exact Profile.classify?_eq_element (by decide) hline (opensWith_scalaHeader hms name rest)
    (isSolid_scalaHeader ms hname rest) hrules (scala_passes hms name rest) (by decide) (Or.inl rfl)
    (scalaFunction_applies ms name rest) (scalaFunction_reads hms hname hrest)

/-- **Who may use it**: `private` counts before `protected`; without either everyone. -/
lemma visibility_scalaHeader (hms : ∀ m ∈ ms, m ∈ scalaWords) (name : Text) :
    scala.visibility name (spaced ms) =
      if ("private" : Text) ∈ ms then .priv else if ("protected" : Text) ∈ ms then .prot
      else .pub := by
  have hwords : ∀ w ∈ scalaWords, w.isName [] = true := by decide
  exact Profile.visibility_spaced rfl rfl rfl (fun m hm => hwords m (hms m hm)) name

end DeclIndex.Language
