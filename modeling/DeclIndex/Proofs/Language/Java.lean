import DeclIndex.Language.Java
import DeclIndex.Proofs.Language.Parts
import DeclIndex.Proofs.Pattern.TakesOnly

/-!
# Types of Java

A type of Java is introduced by one of five words after any number of modifiers. One of these words,
`@interface`, looks like an annotation. After a modifier it does no harm, since annotations are
stripped only from the start of a line. Without modifiers the word is itself at the start of the
line, and what is left after stripping is a name that nothing introduces.

## Main definitions

* `Language.javaHeader` — the header of a type.

## Main results

* `Language.elements_of_java_header` — a line with the header of a type declares the type, except if
  it begins with `@interface`.
-/

namespace DeclIndex.Language

open Pattern Pattern.Expr

/-- The words that may stand before a type. -/
def javaWords : List Text :=
  ["public", "private", "protected", "static", "final", "abstract", "sealed", "non-sealed",
    "strictfp"]

/-- The words for types. -/
def javaTypeWords : List Text :=
  ["class", "interface", "enum", "record", "@interface"]

/-- The header of a type in Java. -/
def javaHeader (ms : List Text) (typeWord : Text) (name : Text.CapitalName) : Header where
  before := spaced ms
  keyword := typeWord
  name := name.text
  rest := " \x7b"

/-- The rule for types. -/
def javaType : Rule := java.rules[1]

variable {ms : List Text} {typeWord : Text}

/-! ## The header -/

/-- The words for types, seen from outside. -/
private lemma isSolid_of_mem_javaTypeWords : ∀ w ∈ javaTypeWords, Text.isSolid w = true ∧
    w.getLast?.any Text.isWord = true ∧ w.head?.any (fun c => !Text.isBlank c) = true := by
  decide

/-- The words before a type open no statement, not even up to a hyphen. -/
private lemma isName_of_mem_javaWords : ∀ w ∈ javaWords,
    Text.isName (w.takeWhile Text.isWord) [] = true ∧
      java.isControlWord (w.takeWhile Text.isWord) = false ∧
      w.head?.any (fun c => !Text.isBlank c) = true := by
  decide

/-- The pieces of the header. -/
lemma isSolid_javaHeader (ms : List Text) (htype : typeWord ∈ javaTypeWords)
    (name : Text.CapitalName) : (javaHeader ms typeWord name).IsSolid :=
  ⟨(isSolid_of_mem_javaTypeWords typeWord htype).1, Text.isSolid_of_isName (by simp) name.isName,
    Or.inl rfl⟩

/-- The header is trimmed. -/
lemma trim_javaHeader (hms : ∀ m ∈ ms, m ∈ javaWords) (htype : typeWord ∈ javaTypeWords)
    (name : Text.CapitalName) :
    (javaHeader ms typeWord name).text.head?.any Text.isBlank = false ∧
      Text.trim (javaHeader ms typeWord name).text = (javaHeader ms typeWord name).text := by
  have hopens : (javaHeader ms typeWord name).text.head?.any Text.isBlank = false :=
    head?_not_of_head? (head?_spaced_append (fun m hm => (isName_of_mem_javaWords m (hms m hm)).2.2)
      (head?_append_of_any (isSolid_of_mem_javaTypeWords typeWord htype).2.2 _))
  refine ⟨hopens, ?_⟩
  rw [Header.trim_text_unindented (isSolid_javaHeader ms htype name) hopens]
  rfl

/-! ## The rule for types -/

/-- The rule for types reads the header. -/
lemma javaType_reads (hms : ∀ m ∈ ms, m ∈ javaWords) (htype : typeWord ∈ javaTypeWords)
    (name : Text.CapitalName) : javaType.Reads (javaHeader ms typeWord name) := by
  have hnone : ∀ w ∈ javaTypeWords, (oneOf (javaWords.map word)).ends false (.ofText w) = some [] := by
    decide
  have hbrace : ∀ e ∈ [seq [angles], seq [gap0, parens],
      seq [gap, oneOf ["extends", "implements"], gap, parent dotted]],
        e.StuckAt false (" \x7b" : Text) := by
    have hends : ∀ e ∈ [seq [angles], seq [gap0, parens],
        seq [gap, oneOf ["extends", "implements"], gap, parent dotted]],
          e.ends false (.ofText " \x7b") = some [] := by
      decide
    exact fun e he => stuckAt_of_ends_ofText (hends e he) []
  refine Rule.reads_of_consumes (w := []) start [modifiers (javaWords.map word)]
    (oneOf (javaTypeWords.map word)) [gap] ident _ rfl ?_ ?_ ?_ ?_ ?_ rfl ?_
  · exact fun after => first_start after []
  · refine (consumes_modifiers (by decide) (by decide) hms ?_ ?_).seq_one
    · exact head?_append_of_any (isSolid_of_mem_javaTypeWords typeWord htype).2.2 _
    · exact stuckAt_of_ends_ofText (hnone typeWord htype) _
  · exact consumes_oneOf (by decide) htype _
  · exact Rule.first_link_of_consumes rfl rfl (consumes_gap (name.head?_any (by decide) _)).seq_one
  · exact consumes_ident name.isName rfl
  · exact Consumes.seq_nil (v := []) (hbrace _ (by simp)).opt
      (Consumes.seq_nil (v := []) (hbrace _ (by simp)).opt (hbrace _ (by simp)).opt.seq_one)

/-! ## The gate of the rule for types -/

/-- What the gate looks for: a word for types that stands alone, `@interface`, or `record` before a
name. -/
private def javaTypeGate : List Expr :=
  [seq [.notBehind 1 (wordOr "@."), oneOf ["class", "interface", "enum"], edge],
    seq ["@interface", edge], seq [edge, "record", gap, capital]]

/-- After a word the gate finds the edge of it. -/
private lemma first_edge_after {w : Text} (hw : w ∈ javaTypeWords) (before after : Text) :
    edge.First false (.between (before ++ w) (' ' :: after) []) (.between (before ++ w) (' ' :: after) [])
    := by
  have hne : w ≠ [] := (Text.isSolid_iff.mp (isSolid_of_mem_javaTypeWords w hw).1).1
  refine first_edge ?_
  rw [List.getLast?_append_of_ne_nil _ hne, (isSolid_of_mem_javaTypeWords w hw).2.1]
  rfl

/-- The gate finds each word for types after other words. -/
private lemma exists_first_javaTypeGate (htype : typeWord ∈ javaTypeWords) (ms : List Text)
    (name : Text.CapitalName) (after : Text) :
    ∃ e ∈ javaTypeGate, ∃ t, e.First false
      (.between (spaced ms) (typeWord ++ ' ' :: (name.text ++ after)) []) t := by
  have hedge := first_edge_after htype (spaced ms) (name.text ++ after)
  have hcases : typeWord ∈ (["class", "interface", "enum"] : List Text) ∨ typeWord = "@interface" ∨
      typeWord = "record" := by
    simp only [javaTypeWords, List.mem_cons, List.not_mem_nil, or_false] at htype ⊢
    tauto
  rcases hcases with hword | rfl | rfl
  · have hbehind : (Expr.notBehind 1 (wordOr "@.")).First false
        (.between (spaced ms) (typeWord ++ ' ' :: (name.text ++ after)) []) _ :=
      first_notBehind (isOne_set _ _) (getLast?_spaced (by decide) ms)
    exact ⟨_, List.mem_cons_self, _,
      hbehind.cat ((consumes_oneOf (by decide) hword _ _ []).cat hedge)⟩
  · exact ⟨_, List.mem_cons_of_mem _ List.mem_cons_self, _,
      (consumes_word "@interface" _ _ []).cat hedge⟩
  · obtain ⟨c, rest, htext, hc, _⟩ := name.exists_cons
    have hcapitals : Text.capitals.all (accepts false false [.range 'A' 'Z']) = true := by decide
    have hbegin : edge.First false
        (.between (spaced ms) ("record" ++ ' ' :: (name.text ++ after)) [])
        (.between (spaced ms) ("record" ++ ' ' :: (name.text ++ after)) []) := by
      refine first_edge ?_
      rw [getLast?_spaced (by decide) ms]
      rfl
    have hgap : gap.Consumes false [' '] (name.text ++ after) :=
      consumes_gap (name.head?_any (by decide) after)
    have hcapital : capital.First false
        (.between (spaced ms ++ "record" ++ [' ']) (c :: (rest ++ after)) []) _ :=
      first_set (List.all_eq_true.mp hcapitals c hc) _ _ []
    rw [htext] at hbegin hgap ⊢
    exact ⟨_, List.mem_cons_of_mem _ (List.mem_cons_of_mem _ List.mem_cons_self), _,
      hbegin.cat ((consumes_word "record" _ _ []).cat ((hgap _ []).cat hcapital))⟩

/-- The gate of the rule for types lets the header in. -/
lemma javaType_applies (htype : typeWord ∈ javaTypeWords) (ms : List Text) (name : Text.CapitalName) :
    javaType.applies (javaHeader ms typeWord name).text = true := by
  obtain ⟨e, he, t, hfirst⟩ := exists_first_javaTypeGate htype ms name " \x7b"
  have hrun : ((oneOf javaTypeGate).run false some
      (.between (spaced ms) (typeWord ++ ' ' :: (name.text ++ " \x7b")) [])).isSome = true :=
    (isSome_run_oneOf _ _).mpr ⟨e, he, Option.isSome_iff_exists.mpr ⟨t, hfirst some t rfl⟩⟩
  exact Rule.applies_of_isSome_run (r := javaType) rfl hrun

/-! ## Lines with such a header -/

/-- A word with a small initial is no word of a name with a capital one, or of a brace after it. -/
private lemma not_stands_capital {w : Text} (hw : w.isName [] = true)
    (hsmall : w.head?.any (· ∈ small) = true) (name : Text.CapitalName) :
    ¬Stands false w (name.text ++ " \x7b") := by
  obtain ⟨c, rest, rfl, _⟩ := Text.exists_cons_of_isName hw
  have hword := isNeighbour_of_isName hw
  have hbrace : ¬Stands false (c :: rest) ("\x7b" : Text) := by
    intro hstands
    obtain ⟨before, after, htext, _⟩ := stands_false_iff.mp hstands
    have hmem : c ∈ ("\x7b" : Text) := by
      rw [htext]
      simp
    have hc := hword c List.mem_cons_self
    rw [List.mem_singleton.mp hmem] at hc
    exact absurd hc (by decide)
  refine (stands_append_cons_iff (List.cons_ne_nil c rest) hword (isNeighbour_of_isName name.isName)
    (by decide)).not.mpr (not_or.mpr ⟨fun heq => ?_, hbrace⟩)
  have hcapitals : Text.capitals.all (fun c => !decide (c ∈ small)) = true := by decide
  have hcapital := name.head?_any hcapitals []
  rw [List.append_nil, ← heq, hsmall] at hcapital
  exact absurd hcapital (by decide)

/-- A word that stands alone in a modifier is the modifier, except for the two words around the
hyphen. -/
private lemma stands_javaWord_iff {w m : Text} (hw : w.isName [] = true)
    (hparts : w ≠ "non" ∧ w ≠ "sealed") (hm : m ∈ javaWords) : Stands false w m ↔ w = m := by
  have hwords : ∀ m ∈ javaWords, m.isName [] = true ∨ m = "non".toList ++ '-' :: "sealed".toList := by
    decide
  rcases hwords m hm with hname | rfl
  · exact stands_iff_eq (isNeighbour_of_isName hname)
  · obtain ⟨c, rest, rfl, _⟩ := Text.exists_cons_of_isName hw
    rw [stands_append_cons_iff (List.cons_ne_nil c rest) (isNeighbour_of_isName hw)
      (isNeighbour_of_isName (by decide)) (by decide),
      stands_iff_eq (isNeighbour_of_isName (by decide))]
    refine iff_of_false (not_or.mpr hparts) fun heq => ?_
    rw [heq] at hw
    exact absurd hw (by decide)

/-- The rule for packages leaves the header to those after it. -/
lemma javaPackage_passes (hms : ∀ m ∈ ms, m ∈ javaWords) (htype : typeWord ∈ javaTypeWords)
    (name : Text.CapitalName) :
    java.rules[0].Passes (javaHeader ms typeWord name).text := by
  have htypes : ∀ t ∈ javaTypeWords, t.isName [] = true ∨ t = [] ++ '@' :: "interface".toList := by
    decide
  have hgate : java.rules[0].gate = ofWords java.rules[0].pattern.fold ["package"] := rfl
  refine Rule.passes_of_not_stands hgate (List.cons_ne_nil _ _) ?_
  rintro w hw
  obtain rfl := List.mem_singleton.mp hw
  refine (stands_spaced_append_iff (by decide) ms _).not.mpr (not_or.mpr ⟨?_, ?_⟩)
  · rintro ⟨m, hm, hstands⟩
    obtain rfl := (stands_javaWord_iff (by decide) (by decide) (hms m hm)).mp hstands
    exact absurd (hms _ hm) (by decide)
  · have hpackage : ∀ c ∈ ("package" : Text), isNeighbour false c = true :=
      isNeighbour_of_isName (by decide)
    refine (stands_append_separator_iff (by decide) hpackage (by decide) typeWord).not.mpr
      (not_or.mpr ⟨?_, ?_⟩)
    · rcases htypes typeWord htype with hname | rfl
      · rw [stands_iff_eq (isNeighbour_of_isName hname)]
        rintro rfl
        exact absurd htype (by decide)
      · rw [stands_append_cons_iff (by decide) hpackage (List.forall_mem_nil _) (by decide),
          stands_iff_eq (isNeighbour_of_isName (by decide))]
        decide
    · exact not_stands_capital (by decide) (by decide) name

/-- The header begins with a word that opens no statement, except if it begins with `@interface`. -/
lemma opensWith_javaHeader (hms : ∀ m ∈ ms, m ∈ javaWords) (htype : typeWord ∈ javaTypeWords)
    (hopen : ms ≠ [] ∨ typeWord ≠ "@interface") (name : Text.CapitalName) :
    Profile.OpensWith
      (fun w => java.isControlWord w = false ∨
        java.hasMarker (javaHeader ms typeWord name).text = true)
      (javaHeader ms typeWord name).text := by
  have htypes : ∀ w ∈ javaTypeWords, w ≠ "@interface" →
      Text.isName w [] = true ∧ java.isControlWord w = false := by
    decide
  cases ms with
  | nil =>
    obtain ⟨hname, hcontrol⟩ := htypes typeWord htype (hopen.resolve_left (by simp))
    exact opensWith_word (w := typeWord) hname (Or.inl hcontrol) rfl
  | cons m ms =>
    obtain ⟨hname, hcontrol, _⟩ := isName_of_mem_javaWords m (hms m List.mem_cons_self)
    have htext : (javaHeader (m :: ms) typeWord name).text =
        m ++ ' ' :: (spaced ms ++ (typeWord ++ ' ' :: (name.text ++ " \x7b"))) := by
      rw [Header.text, javaHeader, spaced_cons, List.append_assoc]
      rfl
    rw [htext]
    exact opensWith_takeWhile hname (Or.inl hcontrol) rfl

/-- A line with such a header declares the type, except if it begins with `@interface`. -/
theorem classify?_javaHeader (hms : ∀ m ∈ ms, m ∈ javaWords) (htype : typeWord ∈ javaTypeWords)
    (hopen : ms ≠ [] ∨ typeWord ≠ "@interface") (name : Text.CapitalName) {site : Site}
    (hline : Text.trim site.line = (javaHeader ms typeWord name).text) :
    java.classify? site = some ((javaHeader ms typeWord name).declaration .type java site) := by
  have hrules : java.rules = [java.rules[0]] ++ javaType :: java.rules.drop 2 := rfl
  exact Profile.classify?_eq_declaration (by decide) hline (opensWith_javaHeader hms htype hopen name)
    (isSolid_javaHeader ms htype name) hrules
    (List.forall_mem_singleton.mpr (javaPackage_passes hms htype name)) (by decide) (Or.inl rfl)
    (javaType_applies htype ms name) (javaType_reads hms htype name)

/-- **Who may use it**: of the three words that say so the first counts that stands before the type,
in the order of the language and not of the line. -/
lemma visibility_javaHeader (hms : ∀ m ∈ ms, m ∈ javaWords) (name : Text) :
    java.visibility name (spaced ms) =
      if ("public" : Text) ∈ ms then .pub else if ("private" : Text) ∈ ms then .priv
      else if ("protected" : Text) ∈ ms then .prot else .unspecified := by
  have hnames : ∀ w ∈ java.visibilityWords,
      w.1.isName [] = true ∧ w.1 ≠ "non" ∧ w.1 ≠ "sealed" := by
    decide
  have hwords : java.visibilityWords = [(("public" : Text), Visibility.pub),
      (("private" : Text), Visibility.priv), (("protected" : Text), Visibility.prot)] := rfl
  rw [Profile.visibility_of_find? rfl rfl (by decide) fun w hw m hm =>
      stands_javaWord_iff (hnames w hw).1 (hnames w hw).2 (hms m hm),
    hwords, Profile.find?_cons_getD, Profile.find?_cons_getD, Profile.find?_cons_getD]
  rfl

/-! ## Lines that begin with `@interface` -/

/-- The word is stripped like an annotation. -/
lemma stripAttributes_interface (name : Text.CapitalName) :
    java.stripAttributes ("@interface" ++ ' ' :: (name.text ++ " \x7b")) = name.text ++ " \x7b" := by
  obtain ⟨c, rest, htext, hc, _⟩ := name.exists_cons
  have hcapitals : Text.capitals.all Text.isAsciiLetter = true := by decide
  have hname : ∀ d ∈ ("interface" : Text),
      accepts false false (.kind .word false :: ".:".toList.map .char) d = true :=
    List.all_eq_true.mp (by decide)
  have hparens : (Expr.seq [parens]).StuckAt false (' ' :: c :: (rest ++ " \x7b")) :=
    (stuckAt_char (c := '(') rfl).seq _
  have hconsumes : annotation.body.Consumes false ("@" ++ "interface".toList)
      (' ' :: c :: (rest ++ " \x7b")) :=
    (consumes_word "@" _).seq
      ((consumes_some1_set hname (by decide) rfl).seq_stay hparens.opt.seq_one)
  rw [htext]
  exact Profile.stripAttributes_of_first (by decide) rfl (by decide)
    (List.all_eq_true.mp hcapitals c hc) (hconsumes [] [])

section Name

variable {name : Text.CapitalName} {before after : Text}

/-- A small letter stands only inside the name. -/
private lemma getLast?_of_small (htext : name.text ++ " \x7b" = before ++ after)
    (hsmall : after.head?.any (· ∈ small) = true) :
    ∃ d, before.getLast? = some d ∧ Text.isWord d = true := by
  rcases List.append_eq_append_iff.mp htext with ⟨x, rfl, hx⟩ | ⟨y, hname, rfl⟩
  · have hnone : ∀ c ∈ (" \x7b" : Text), (decide (c ∉ small)) = true :=
      List.all_eq_true.mp (by decide)
    cases after with
    | nil => simp at hsmall
    | cons c after =>
      exact absurd (of_decide_eq_true hsmall) (of_decide_eq_true (hnone c (by rw [hx]; simp)))
  · cases hlast : before.getLast? with
    | none =>
      rw [List.getLast?_eq_none_iff.mp hlast, List.nil_append] at hname
      rw [← hname, name.head?_any (by decide)] at hsmall
      exact absurd hsmall (by decide)
    | some d =>
      have hmem : d ∈ name.text := hname ▸ List.mem_append_left y (List.mem_of_getLast? hlast)
      exact ⟨d, rfl, name.isWord_of_mem hmem⟩

/-- A word with a small initial does not begin where no small letter stands. -/
private lemma stuckAt_word_of_small {w : Text} (hw : w.head?.any (· ∈ small) = true)
    (hafter : after.head?.any (· ∈ small) = false) : (word w).StuckAt false after := by
  cases w with
  | nil => simp at hw
  | cons c w =>
    refine (stuckAt_char ?_).seq _
    cases after with
    | nil => rfl
    | cons d after =>
      rw [List.head?_cons, Option.any_some, decide_eq_true_eq] at hw
      rw [List.head?_cons, Option.any_some, decide_eq_false_iff_not] at hafter
      exact beq_eq_false_iff_ne.mpr fun heq => hafter (heq ▸ hw)

/-- The gate of the rule for types finds nothing in a name with a brace after it: the words that it
looks for begin with small letters, and before these a character of the name stands. -/
private lemma javaTypeGate_isStuck (htext : name.text ++ " \x7b" = before ++ after) :
    (oneOf javaTypeGate).IsStuck false (.between before after []) := by
  have hat : '@' ∉ name.text ++ " \x7b" := by
    intro hmem
    rcases List.mem_append.mp hmem with hmem | hmem
    · exact absurd (name.isWord_of_mem hmem) (by decide)
    · exact absurd hmem (by decide)
  have hinterface : (Expr.seq ["@interface", edge]).IsStuck false (.between before after []) := by
    refine ((stuckAt_char (c := '@') ?_).seq _ before []).cat _
    cases after with
    | nil => rfl
    | cons c after => exact beq_eq_false_iff_ne.mpr fun heq => hat (by rw [htext, heq]; simp)
  cases hsmall : after.head?.any (· ∈ small) with
  | true =>
    obtain ⟨d, hlast, hd⟩ := getLast?_of_small htext hsmall
    have hwords : ∀ c ∈ small, Text.isWord c = true := List.all_eq_true.mp (by decide)
    have hbehind : before.getLast?.any
        (accepts false false (.kind .word false :: "@.".toList.map .char)) = true := by
      rw [hlast, Option.any_some, congrFun (accepts_wordOr "@.".toList) d, hd]
      rfl
    have hinside : before.getLast?.any Text.isWord = after.head?.any Text.isWord := by
      cases after with
      | nil => simp at hsmall
      | cons c after =>
        rw [hlast, Option.any_some, hd, List.head?_cons, Option.any_some,
          hwords c (of_decide_eq_true hsmall)]
    exact ((isStuck_notBehind (isOne_set _ _) hbehind).cat _).alt
      (hinterface.alt ((isStuck_edge hinside).cat _))
  | false =>
    have hword : ∀ w : Text, w.head?.any (· ∈ small) = true → (word w).StuckAt false after :=
      fun w hw => stuckAt_word_of_small hw hsmall
    have hplain : (oneOf ["class", "interface", "enum"]).StuckAt false after :=
      (hword "class" rfl).alt ((hword "interface" rfl).alt (hword "enum" rfl))
    refine IsStuck.alt (isStuck_cat ?_) (hinterface.alt (isStuck_cat ?_))
    · rintro _ ⟨_, rfl⟩
      exact (hplain before []).cat _
    · rintro _ ⟨_, rfl⟩
      exact (hword "record" rfl before []).cat _

/-- Nothing is declared by a name with a brace after it. -/
private lemma java_passes (name : Text.CapitalName) :
    ∀ r ∈ java.rules, r.Passes (name.text ++ " \x7b") := by
  intro r hr
  have hparen : '(' ∉ name.text ++ " \x7b" := by
    intro hmem
    rcases List.mem_append.mp hmem with hmem | hmem
    · exact absurd (name.isWord_of_mem hmem) (by decide)
    · exact absurd hmem (by decide)
  have hwords : ∀ {r : Rule} {w : Text}, r.gate = ofWords r.pattern.fold [w] → r.pattern.fold = false →
      w.isName [] = true → w.head?.any (· ∈ small) = true → r.Passes (name.text ++ " \x7b") := by
    intro r w hgate hfold hw hsmall
    refine Rule.passes_of_not_stands hgate (List.cons_ne_nil _ _) fun v hv => ?_
    obtain rfl := List.mem_singleton.mp hv
    rw [hfold]
    exact not_stands_capital hw hsmall name
  simp only [java, List.mem_cons, List.not_mem_nil, or_false] at hr
  rcases hr with rfl | rfl | rfl | rfl
  · exact hwords (w := "package") rfl rfl (by decide) (by decide)
  · exact Rule.passes_of_isStuck rfl fun before after htext => javaTypeGate_isStuck htext
  · have hbody : typedCallable.pattern.body =
        seq ((typedHeader noPrototype).take 7 ++ .char '(' :: [noPrototype]) := rfl
    exact Or.inr ⟨rfl, find?_eq_none_of_not_mem hbody rfl hparen⟩
  · exact hwords (w := "final") rfl rfl (by decide) (by decide)

end Name

/-- A line that begins with `@interface` declares nothing. -/
theorem classify?_interface (name : Text.CapitalName) {site : Site}
    (hline : Text.trim site.line = (javaHeader [] "@interface" name).text) :
    java.classify? site = none := by
  have hname : java.isControlWord name.text = false :=
    Profile.isControlWord_capital rfl (by decide) name
  have hflow : java.isControlFlow (name.text ++ " \x7b") = false :=
    Profile.isControlFlow_of_opensWith (opensWith_word name.isName (Or.inl hname) rfl)
  have hcode : java.code? site.line = some (name.text ++ " \x7b") := by
    refine Profile.code?_of_stripAttributes ?_ ?_ (by simp) hflow
    · rw [hline]
      rfl
    · rw [hline]
      exact stripAttributes_interface name
  rw [Profile.classify?, hcode, Option.bind_some, ← List.append_nil java.rules,
    Profile.applyRules_append (java_passes name)]
  rfl

/-- **A line with the header of a type declares the type, except if it begins with `@interface`.**
Then it declares nothing.

**Proof sketch.** If the line opens with another word, it is code as it stands. No word for packages
stands in it, the gate of the rule for types finds the word for types after the modifiers, and the
rule reads the header. If it begins with `@interface`, the word is stripped like an annotation. What
is left holds neither a word that a gate looks for nor a parenthesis, so that all rules pass. -/
theorem elements_of_java_header (hms : ∀ m ∈ ms, m ∈ javaWords) (htype : typeWord ∈ javaTypeWords)
    (name : Text.CapitalName) {lines : List Text} {i : Nat}
    (hline : lines[i]? = some (javaHeader ms typeWord name).text) :
    (ms ≠ [] ∨ typeWord ≠ "@interface" →
      ∃ e, (java.elements lines).filter (fun e => e.line = (i : Int) + 1) = [e] ∧
        e.name = name.text ∧ e.keyword = typeWord ∧ e.kind = .type ∧
        e.visibility = if ("public" : Text) ∈ ms then .pub else if ("private" : Text) ∈ ms then .priv
          else if ("protected" : Text) ∈ ms then .prot else .unspecified) ∧
    (ms = [] ∧ typeWord = "@interface" →
      (java.elements lines).filter (fun e => e.line = (i : Int) + 1) = []) := by
  obtain ⟨hopens, htrim⟩ := trim_javaHeader hms htype name
  rw [Profile.filter_elements_of_getElem? hline]
  constructor
  · intro hopen
    rw [classify?_javaHeader hms htype hopen name htrim]
    exact ⟨_, rfl, rfl, rfl, java.kindOf_unindented .type hopens,
      visibility_javaHeader hms name.text⟩
  · rintro ⟨rfl, rfl⟩
    rw [classify?_interface name htrim]
    rfl

/-- A record with modifiers, an annotation type with one, and one without. -/
theorem elements_of_java_header_annotation :
    (∃ e, (java.elements ["protected non-sealed record Box \x7b"]).filter (fun e => e.line = 1) = [e] ∧
      e.name = "Box" ∧ e.keyword = "record" ∧ e.kind = .type ∧ e.visibility = .prot) ∧
    (∃ e, (java.elements ["public @interface Box \x7b"]).filter (fun e => e.line = 1) = [e] ∧
      e.name = "Box" ∧ e.keyword = "@interface" ∧ e.kind = .type ∧ e.visibility = .pub) ∧
    (java.elements ["@interface Box \x7b"]).filter (fun e => e.line = 1) = [] := by
  have hrecord : ∀ m ∈ (["protected", "non-sealed"] : List Text), m ∈ javaWords := by decide
  have hpublic : ∀ m ∈ (["public"] : List Text), m ∈ javaWords := by decide
  have hwords : ("record" : Text) ∈ javaTypeWords ∧ ("@interface" : Text) ∈ javaTypeWords := by decide
  have hfirst : (["protected non-sealed record Box \x7b"] : List Text)[0]? =
      some (javaHeader ["protected", "non-sealed"] "record" { text := "Box" }).text := rfl
  have hsecond : (["public @interface Box \x7b"] : List Text)[0]? =
      some (javaHeader ["public"] "@interface" { text := "Box" }).text := rfl
  have hthird : (["@interface Box \x7b"] : List Text)[0]? =
      some (javaHeader [] "@interface" { text := "Box" }).text := rfl
  exact ⟨(elements_of_java_header hrecord hwords.1 _ hfirst).1 (by decide),
    (elements_of_java_header hpublic hwords.2 _ hsecond).1 (by decide),
    (elements_of_java_header (List.forall_mem_nil _) hwords.2 _ hthird).2 (by decide)⟩

/-- An annotation type without modifiers is lost. -/
theorem elements_of_plain_interface :
    ¬ ∃ e ∈ java.elements ["@interface Marker \x7b"], e.name = "Marker" ∧ e.kind = .type := by
  rintro ⟨e, he, -⟩
  obtain ⟨site, -, hmem, hsite⟩ := Profile.exists_site_of_mem_elements he
  have hline : Text.trim site.line = (javaHeader [] "@interface" { text := "Marker" }).text := by
    rw [List.mem_singleton.mp hmem]
    rfl
  rw [classify?_interface _ hline] at hsite
  exact absurd hsite (by simp)

end DeclIndex.Language
