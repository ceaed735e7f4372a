import DeclIndex.Proofs.Language.Crystal
import DeclIndex.Proofs.Language.Lua
import DeclIndex.Proofs.Language.Pascal
import DeclIndex.Proofs.Language.Scala
import DeclIndex.Proofs.Language.Script

/-!
# Headers that are recognized whatever follows

For several languages a line that begins with the header of a function declares the function whatever
else it holds: default values, strings, comments or a body. Up to the name the header is fixed. After
the name any text may stand, in the languages without a parenthesis there any text that cannot be
taken for a part of the name.

## Main definitions

* `Language.HeaderForm` — the forms of headers, with what each says of its function.

## Main results

* `Language.elements_of_header` — a line with such a header declares exactly its function.
-/

namespace DeclIndex.Language

open Pattern

/-- The forms of headers, each with the words that it holds beside the name. -/
inductive HeaderForm
  | script (typed exported default async generator : Bool)
  | lua (isLocal : Bool) (owner : Option LuaOwner)
  | scala (ms : List Text)
  | crystal (ms : List Text) (defWord : Text) (onSelf : Bool)
  | pascal (ofClass : Bool) (routine : Text) (owner : Option Text)
  deriving DecidableEq, Repr

namespace HeaderForm

/-- The language of a header. -/
def profile : HeaderForm → Profile
  | script typed _ _ _ _ => Language.script typed
  | lua _ _ => Language.lua
  | scala _ => Language.scala
  | crystal _ _ _ => Language.crystal
  | pascal _ _ _ => Language.pascal

/-- The header with a name and a text after it. -/
def header (f : HeaderForm) (name rest : Text) : Header :=
  match f with
  | script _ exported default async generator =>
    scriptHeader exported default async generator name rest
  | lua isLocal owner => luaHeader isLocal owner name rest
  | scala ms => scalaHeader ms name rest
  | crystal ms defWord onSelf => crystalHeader ms defWord onSelf name rest
  | pascal ofClass routine owner => pascalHeader ofClass routine owner name rest

/-- The words are words of the language, in their places. -/
def IsValid : HeaderForm → Prop
  | script _ _ _ _ _ => True
  | lua _ owner => ∀ o ∈ owner, o.IsValid
  | scala ms => ∀ m ∈ ms, m ∈ scalaWords
  | crystal ms defWord _ => (∀ m ∈ ms, m ∈ crystalWords) ∧ defWord ∈ crystalDefWords
  | pascal _ routine owner => routine ∈ pascalRoutineWords ∧ ∀ q ∈ owner, q.isName [] = true

/-- The characters that names hold beside word characters. -/
def nameExtra : HeaderForm → Text
  | script _ _ _ _ _ => ['$']
  | _ => []

/-- What may follow. In the script languages and in Lua there is a parenthesis after the name, and
then any text. -/
def Allows (f : HeaderForm) (rest : Text) : Prop :=
  match f with
  | script _ _ _ _ _ => True
  | lua _ _ => True
  | scala _ => rest.head?.any Text.isWord = false
  | crystal _ _ _ => AfterName rest
  | pascal _ _ _ => AfterName rest

/-- Whether a function becomes a method by its indentation. -/
def countsIndent : HeaderForm → Bool
  | lua _ _ => false
  | _ => true

/-- Who may use the function. -/
def visibility : HeaderForm → Visibility
  | script _ exported _ _ _ => if exported then .pub else .unspecified
  | lua isLocal _ => if isLocal then .priv else .pub
  | scala ms =>
    if ("private" : Text) ∈ ms then .priv else if ("protected" : Text) ∈ ms then .prot else .pub
  | crystal ms _ _ =>
    if ("private" : Text) ∈ ms then .priv else if ("protected" : Text) ∈ ms then .prot else .pub
  | pascal _ _ _ => .unspecified

variable {f : HeaderForm} {name rest : Text}

/-- What stands up to the name does not depend on what follows it. -/
lemma fields_header (f : HeaderForm) (name rest rest' : Text) :
    (f.header name rest').name = name ∧
      (f.header name rest').keyword = (f.header name rest).keyword ∧
      (f.header name rest').receiver = (f.header name rest).receiver := by
  cases f <;> exact ⟨rfl, rfl, rfl⟩

/-- The pieces of the header. -/
lemma isSolid_header (hf : f.IsValid) (hname : name.isName f.nameExtra = true) (rest : Text) :
    (f.header name rest).IsSolid := by
  cases f with
  | script typed exported default async generator =>
    exact isSolid_scriptHeader exported default async generator hname rest
  | lua isLocal owner => exact isSolid_luaHeader hname isLocal hf rest
  | scala ms => exact isSolid_scalaHeader ms hname rest
  | crystal ms defWord onSelf => exact isSolid_crystalHeader ms hf.2 onSelf hname rest
  | pascal ofClass routine owner => exact isSolid_pascalHeader ofClass hf.1 hf.2 hname rest

/-- The header begins with a word. -/
lemma head?_header (hf : f.IsValid) (name rest : Text) :
    (f.header name rest).text.head?.any Text.isBlank = false := by
  cases f with
  | script typed exported default async generator =>
    exact (opensWith_scriptHeader typed exported default async generator name rest).head?_isBlank
  | lua isLocal owner => exact (opensWith_luaHeader isLocal owner name rest).head?_isBlank
  | scala ms => exact (opensWith_scalaHeader hf name rest).head?_isBlank
  | crystal ms defWord onSelf =>
    exact (opensWith_crystalHeader hf.1 hf.2 onSelf name rest).head?_isBlank
  | pascal ofClass routine owner =>
    exact (opensWith_pascalHeader ofClass hf.1 owner name rest).head?_isBlank

/-- What may follow may follow without the white space at its end. -/
lemma Allows.trimEnd (h : f.Allows rest) : f.Allows (Text.trimEnd rest) := by
  rcases Text.head?_trimEnd rest with hnil | hhead
  · rw [hnil]
    cases f with
    | script | lua => trivial
    | scala => rfl
    | crystal | pascal => exact fun c hc => nomatch hc
  · cases f with
    | script | lua => trivial
    | scala =>
      change (Text.trimEnd rest).head?.any Text.isWord = false
      rw [hhead]
      exact h
    | crystal | pascal =>
      intro c hc
      rw [hhead] at hc
      exact h c hc

/-- A header that ends with white space has the same form without it. -/
lemma header_trimEnd (f : HeaderForm) (name rest : Text) :
    { f.header name rest with rest := Text.trimEnd (f.header name rest).rest } =
      f.header name (Text.trimEnd rest) := by
  have hparen : Text.trimEnd ('(' :: rest) = '(' :: Text.trimEnd rest := Text.trimEnd_cons rfl rest
  cases f with
  | script typed exported default async generator =>
    simp only [header, scriptHeader, hparen]
  | lua isLocal owner => simp only [header, luaHeader, hparen]
  | scala | crystal | pascal => rfl

/-- What a line with the header declares. -/
lemma classify?_header (hf : f.IsValid) (hname : name.isName f.nameExtra = true)
    (hrest : f.Allows rest) {site : Site}
    (hline : Text.trim site.line = (f.header name rest).text) :
    f.profile.classify? site = some ((f.header name rest).element f.profile site) := by
  cases f with
  | script typed exported default async generator =>
    exact classify?_scriptHeader typed exported default async generator hname rest hline
  | lua isLocal owner => exact classify?_luaHeader hname isLocal hf rest hline
  | scala ms => exact classify?_scalaHeader hf hname hrest hline
  | crystal ms defWord onSelf =>
    exact classify?_crystalHeader hf.1 hf.2 onSelf hname hrest hline
  | pascal ofClass routine owner =>
    exact classify?_pascalHeader ofClass hf.1 hf.2 hname hrest hline

/-- Who may use the function is said before the introducing word, if at all. -/
lemma visibility_header (hf : f.IsValid) (hname : name.isName f.nameExtra = true) (rest : Text) :
    f.profile.visibility name (f.header name rest).before = f.visibility := by
  cases f with
  | script typed exported default async generator =>
    exact visibility_scriptHeader typed exported default async hname
  | lua isLocal owner => exact visibility_luaHeader isLocal name
  | scala ms => exact visibility_scalaHeader hf name
  | crystal ms defWord onSelf => exact visibility_crystalHeader hf.1 name
  | pascal ofClass routine owner => exact visibility_pascalHeader ofClass name

/-- The introducing word is reported as it is written: where case makes no difference it is in lower
case already. -/
lemma spelling_keyword (hf : f.IsValid) (name rest : Text) :
    f.profile.spelling (f.header name rest).keyword = (f.header name rest).keyword := by
  cases f with
  | script typed => cases typed <;> rfl
  | lua | scala | crystal => rfl
  | pascal ofClass routine owner =>
    have hwords : ∀ w ∈ pascalRoutineWords, Language.pascal.spelling w = w := by decide
    exact hwords routine hf.1

/-- A function is a method if it has a receiver or if its line is indented, where this counts. -/
lemma kindOf_header (f : HeaderForm) (name rest : Text) (line : Text) :
    f.profile.kindOf .function line (f.header name rest).receiver =
      if (f.header name rest).receiver ≠ [] ∨
        (f.countsIndent = true ∧ Text.isIndented line = true) then .method else .function := by
  have hdetect : decide (f.profile.methodDetection = .indent) = f.countsIndent := by
    cases f with
    | script typed => cases typed <;> rfl
    | lua | scala | crystal | pascal => rfl
  rw [Profile.kindOf, hdetect]
  simp only [decide_true, Bool.true_and, Bool.or_eq_true, Bool.not_eq_true',
    List.isEmpty_eq_false_iff, Bool.and_eq_true, ne_eq]

end HeaderForm

/-- **A line with such a header declares exactly its function**, whatever follows the name and
whatever stands in the lines around. The line may begin with white space. The element has the name
and the introducing word of the header. It is a method if a receiver is written or, other than in
Lua, if the line is indented.

**Proof sketch.** The line is code, since it opens with a word that is no control word or holds the
marker of a declaration. The rules before the one for functions cannot match from the start of the
line, and their gates either cannot match there or are for words that only the rule looks for. The
rule for functions reads the header: a loop over modifiers ends at the introducing word, an optional
receiver that is not written leads nowhere, since no dot follows the name, and the name is read to
its end. -/
theorem elements_of_header (f : HeaderForm) (hf : f.IsValid) {name rest : Text}
    (hname : name.isName f.nameExtra = true) (hrest : f.Allows rest) {indent : Text}
    (hindent : ∀ c ∈ indent, Text.isBlank c = true) {lines : List Text} {i : Nat}
    (hline : lines[i]? = some (indent ++ (f.header name rest).text)) :
    ∃ e, (f.profile.elements lines).filter (fun e => e.line = (i : Int) + 1) = [e] ∧
      e.name = name ∧
      e.keyword = (f.header name rest).keyword ∧
      e.kind = (if (f.header name rest).receiver ≠ [] ∨ (f.countsIndent = true ∧ indent ≠ [])
        then .method else .function) ∧
      e.visibility = f.visibility ∧
      e.parent = [] := by
  have hhead := f.head?_header hf name rest
  have htrim : Text.trim (indent ++ (f.header name rest).text) =
      (f.header name (Text.trimEnd rest)).text := by
    rw [Header.trim_text (HeaderForm.isSolid_header hf hname rest) hhead hindent,
      f.header_trimEnd]
  have hindented : Text.isIndented (indent ++ (f.header name rest).text) = true ↔ indent ≠ [] := by
    cases indent with
    | nil => simpa [Text.isIndented] using hhead
    | cons c indent => simpa [Text.isIndented] using hindent c List.mem_cons_self
  obtain ⟨hnamed, hkeyword, hreceiver⟩ := f.fields_header name rest (Text.trimEnd rest)
  rw [Profile.filter_elements_of_getElem? hline, HeaderForm.classify?_header hf hname hrest.trimEnd
    htrim]
  refine ⟨_, rfl, hnamed, (f.spelling_keyword hf name _).trans hkeyword, ?_, ?_, rfl⟩
  · refine (f.kindOf_header name _ _).trans ?_
    simp only [hreceiver, hindented]
  · change f.profile.visibility (f.header name (Text.trimEnd rest)).name _ = _
    rw [hnamed]
    exact HeaderForm.visibility_header hf hname _

/-- An indented macro of Crystal with two modifiers and a receiver, and words for other declarations
after the name. -/
theorem elements_of_header_crystal :
    ∃ e, (Language.crystal.elements ["class Box",
        "  protected private macro self.make(kind = \"class\") # module A "]).filter
          (fun e => e.line = 2) = [e] ∧
      e.name = "make" ∧ e.keyword = "macro" ∧ e.kind = .method ∧ e.visibility = .priv ∧
      e.parent = [] := by
  have hmodifiers : ∀ m ∈ (["protected", "private"] : List Text), m ∈ crystalWords := by decide
  have hname : Text.isName "make" [] = true := by decide
  have hrest : AfterName "(kind = \"class\") # module A " :=
    fun c hc => Or.inr (Option.some.inj hc).symm
  have hindent : ∀ c ∈ ("  " : Text), Text.isBlank c = true := List.all_eq_true.mp (by decide)
  have hline : (["class Box",
      "  protected private macro self.make(kind = \"class\") # module A "] : List Text)[1]? =
      some ("  " ++ (crystalHeader ["protected", "private"] "macro" true "make"
        "(kind = \"class\") # module A ").text) := by
    decide
  obtain ⟨e, hone, hnamed, hkeyword, hkind, hvisibility, hparent⟩ :=
    elements_of_header (.crystal ["protected", "private"] "macro" true) ⟨hmodifiers, by decide⟩
      hname hrest hindent hline
  exact ⟨e, hone, hnamed, hkeyword, hkind.trans (by decide), hvisibility.trans (by decide), hparent⟩

end DeclIndex.Language
