import DeclIndex.Language.Swift
import DeclIndex.Proofs.Language.Parts
import DeclIndex.Proofs.Pattern.TakesOnly

/-!
# Functions of Swift

Before `func` modifiers may stand, and one of them is `class`, which is also a word for types. The
gate of the rule for types looks for a word for types after any number of modifiers and refuses it
only if `func`, `var` or `let` follows at once. So a member with `class` as its last modifier is left
to the rule for functions. If another modifier follows, the gate lets the line in, and the rule for
types takes this modifier for the name of a class.

Which class it declares depends on the loop over the modifiers: it first takes all of them and then
gives back one after the other, up to the last `class`.

## Main definitions

* `Language.swiftHeader` — the header of a function.
* `Language.swiftTypeHeader` — the same line, read as the header of a class.

## Main results

* `Language.elements_of_swift_header` — a line with the header of a function declares the function if
  `class` stands at most as the last modifier, and otherwise a class.
-/

namespace DeclIndex.Language

open Pattern Pattern.Expr

/-- The words that may stand before `func`. -/
def swiftWords : List Text :=
  ["public", "private", "fileprivate", "internal", "open", "final", "indirect", "static", "class",
    "override", "mutating", "nonmutating", "convenience", "required", "nonisolated", "dynamic"]

/-- The header of a function in Swift. -/
def swiftHeader (ms : List Text) (name rest : Text) : Header where
  before := spaced ms
  keyword := "func"
  name := name
  rest := '(' :: rest

/-- The header of a class that the word `w` after `class` names, in a line with the header of a
function: of the words `ms` come before `class` and `ws` after the name. -/
def swiftTypeHeader (ms : List Text) (w : Text) (ws : List Text) (name rest : Text) : Header where
  before := spaced ms
  keyword := "class"
  name := w
  rest := ' ' :: (spaced ws ++ (name ++ '(' :: rest))

/-- The rule for types. -/
def swiftType : Rule := swift.rules[0]

/-- The rule for functions. -/
def swiftFunction : Rule := swift.rules[1]

variable {ms xs ys ws : List Text} {m w name rest : Text}

/-! ## The words -/

/-- What stands before the end of a list stands before another element. -/
private lemma mem_dropLast_iff {α : Type} {a : α} {l : List α} :
    a ∈ l.dropLast ↔ ∃ xs b ys, l = xs ++ a :: b :: ys := by
  constructor
  · intro h
    have hne : l ≠ [] := fun hnil => by simp [hnil] at h
    obtain ⟨xs, zs, hcut⟩ := List.append_of_mem h
    obtain ⟨b, ys, hys⟩ := List.exists_cons_of_ne_nil
      (List.append_ne_nil_of_right_ne_nil zs (List.cons_ne_nil (l.getLast hne) []))
    refine ⟨xs, b, ys, ?_⟩
    rw [← hys, ← List.cons_append, ← List.append_assoc, ← hcut, List.dropLast_append_getLast]
  · rintro ⟨xs, b, ys, rfl⟩
    simp [List.dropLast_append_of_ne_nil]

/-- Of the places where an element stands in a list one is the last. -/
private lemma exists_last_of_mem {α : Type} {a : α} {l : List α} (h : a ∈ l) :
    ∃ xs ys, l = xs ++ a :: ys ∧ a ∉ ys := by
  obtain ⟨ys, xs, hcut, hys⟩ := List.eq_append_cons_of_mem (List.mem_reverse.mpr h)
  refine ⟨xs.reverse, ys.reverse, ?_, by rwa [List.mem_reverse]⟩
  rw [← List.reverse_reverse l, hcut, List.reverse_append, List.reverse_cons, List.append_assoc]
  rfl

/-- The words are names, and none opens a statement. -/
private lemma isName_of_mem_swift : ∀ w ∈ ("func" : Text) :: swiftWords,
    Text.isName w [] = true ∧ swift.isControlWord w = false := by
  decide

/-- All words up to `func` are names. -/
private lemma isName_of_mem_append_func (hys : ∀ m ∈ ys, m ∈ swiftWords)
    (hws : ys ++ [("func" : Text)] = w :: ws) : ∀ u ∈ w :: ws, Text.isName u [] = true := by
  intro u hu
  rw [← hws, List.mem_append, List.mem_singleton] at hu
  exact (isName_of_mem_swift u (List.mem_cons.mpr (hu.symm.imp_right (hys u)))).1

/-- A round of the loop over the words takes a word and the space after it. -/
private lemma consumes_swiftRound (hw : w ∈ swiftWords) {after : Text}
    (hafter : after.head?.any (fun c => !Text.isBlank c) = true) :
    (Expr.seq [oneOf (swiftWords.map word), gap]).Consumes false (w ++ [' ']) after :=
  (consumes_oneOf (by decide) hw after).seq (consumes_gap (head?_not_of_head? hafter)).seq_one

/-- The words begin with something else than white space. -/
private lemma head?_of_mem_swift (hms : ∀ m ∈ ms, m ∈ swiftWords) :
    ∀ m ∈ ms, m.head?.any (fun c => !Text.isBlank c) = true := by
  have hwords : ∀ w ∈ swiftWords, w.head?.any (fun c => !Text.isBlank c) = true := by
    decide
  exact fun m hm => hwords m (hms m hm)

/-- The rounds of the loop go through words at the start of a line. -/
private lemma iterates_swiftRounds (hxs : ∀ m ∈ xs, m ∈ swiftWords) {after : Text}
    (hafter : after.head?.any (fun c => !Text.isBlank c) = true) :
    Iterates ((Expr.seq [oneOf (swiftWords.map word), gap]).Advances false) xs.length
      (.between [] (spaced xs ++ after) []) (.between (spaced xs) after []) :=
  iterates_spaced (fun u hu _ => consumes_swiftRound (hxs u hu)) (head?_of_mem_swift hxs) hafter []

/-- The rounds of the loop take the words before `func`, one each. -/
private lemma takesWords_swift :
    takesWords (seq [oneOf (swiftWords.map word), gap]) false swiftWords "func" = true := by
  decide

/-- The header, cut before one of the words. -/
lemma text_swiftHeader_append (xs ys : List Text) (name rest : Text) :
    (swiftHeader (xs ++ ys) name rest).text =
      spaced xs ++ (spaced ys ++ ("func" ++ ' ' :: (name ++ '(' :: rest))) := by
  rw [Header.text, swiftHeader, spaced_append, List.append_assoc]
  rfl

/-- The words up to `func`, the first of which may be `func` itself. -/
private lemma spaced_append_func (hws : ys ++ [("func" : Text)] = w :: ws) (after : Text) :
    spaced ys ++ ("func" ++ ' ' :: after) = w ++ ' ' :: (spaced ws ++ after) := by
  have hspaced : spaced ys ++ spaced [("func" : Text)] = spaced (w :: ws) := by
    rw [← spaced_append, hws]
  have hfunc : "func" ++ ' ' :: after = spaced [("func" : Text)] ++ after := rfl
  rw [hfunc, ← List.append_assoc, hspaced, spaced_cons, List.append_assoc, List.cons_append]

/-- From the last `class` on the header is the one of the class that the next word names. -/
private lemma fromKeyword_swiftTypeHeader (hws : ys ++ [("func" : Text)] = w :: ws) (xs : List Text)
    (name rest : Text) : (swiftTypeHeader xs w ws name rest).fromKeyword =
      spaced (("class" : Text) :: ys) ++ ("func" ++ ' ' :: (name ++ '(' :: rest)) := by
  rw [spaced_cons, List.append_assoc, List.cons_append, spaced_append_func hws]
  rfl

/-- A header is also the header of the class that the word after a `class` names. -/
lemma text_swiftTypeHeader (hws : ys ++ [("func" : Text)] = w :: ws) (xs : List Text)
    (name rest : Text) : (swiftTypeHeader xs w ws name rest).text =
      (swiftHeader (xs ++ ("class" : Text) :: ys) name rest).text := by
  rw [text_swiftHeader_append, Header.text_eq_before, fromKeyword_swiftTypeHeader hws]
  rfl

/-- Words, and a name after them, begin with a letter. -/
private lemma exists_letter_cons (hws : ∀ w ∈ ws, Text.isName w [] = true)
    (hname : name.isName [] = true) (rest : Text) :
    ∃ c after, spaced ws ++ (name ++ rest) = c :: after ∧ Text.isAsciiLetter c = true := by
  cases ws with
  | nil =>
    obtain ⟨c, cs, rfl, hc, _⟩ := Text.exists_cons_of_isName hname
    exact ⟨c, cs ++ rest, rfl, hc.resolve_right List.not_mem_nil⟩
  | cons w ws =>
    obtain ⟨c, cs, rfl, hc, _⟩ := Text.exists_cons_of_isName (hws w List.mem_cons_self)
    rw [spaced_cons, List.append_assoc]
    exact ⟨c, _, rfl, hc.resolve_right List.not_mem_nil⟩

/-! ## The rule for functions -/

/-- The rule for functions reads the header. -/
lemma swiftFunction_reads (hms : ∀ m ∈ ms, m ∈ swiftWords) (hname : name.isName [] = true)
    (rest : Text) : swiftFunction.Reads (swiftHeader ms name rest) := by
  refine Rule.reads_of_consumes (w := []) start [swiftModifiers] "func" [gap] _ [] rfl ?_ ?_ ?_ ?_ ?_
    rfl consumes_empty
  · exact fun after => first_start after []
  · refine (consumes_many_spaced (fun m hm after hafter => ?_) (head?_of_mem_swift hms) rfl ?_).seq_one
    · exact consumes_swiftRound (hms m hm) hafter
    · exact StuckAt.seq (stuckAt_of_ends_ofText (v := "func") (by decide) _) _
  · exact consumes_word _ _
  · refine Rule.first_link_of_consumes rfl rfl (Consumes.seq_one (consumes_gap ?_))
    exact head?_name (by decide) hname _
  · exact (consumes_ident hname rfl).alt_left _

/-- The gate of the rule for functions lets the header in. -/
lemma swiftFunction_applies (ms : List Text) (name rest : Text) :
    swiftFunction.applies (swiftHeader ms name rest).text = true :=
  Rule.applies_of_keyword rfl (List.mem_singleton_self _) (getLast?_spaced (by decide) ms) rfl
    (List.cons_ne_nil _ _)

/-! ## The gate of the rule for types -/

/-- What the gate looks for after the modifiers. -/
private def swiftTypeGate : Expr :=
  seq [swiftTypeWords, gap,
    .notAhead (oneOf [seq ["func", edge], seq ["var", edge], seq ["let", edge]]), letter]

/-- Right before `func` a class is refused. -/
private lemma swiftTypeGate_stuckAt_class (after : Text) :
    swiftTypeGate.StuckAt false ("class" ++ ' ' :: ("func" ++ ' ' :: after)) := by
  have hword : swiftTypeWords.ends false (.ofText "class") = some [5] := by decide
  have hgap : gap.ends false (.ofText " f") = some [1] := by decide
  refine stuckAt_cat_of_ends hword (Beginning.fits_ofText _ _) ?_
  refine stuckAt_cat_of_ends hgap (Beginning.fits_ofText " f" ("unc" ++ ' ' :: after)) ?_
  intro before groups
  have hfunc : (Expr.seq ["func", edge]).First false
      (.between before ("func" ++ ' ' :: after) groups)
      (.between (before ++ "func") (' ' :: after) groups) := by
    refine (consumes_word "func" _ before groups).seq (First.seq_one (first_edge ?_))
    rw [List.getLast?_append_of_ne_nil _ (by decide)]
    rfl
  exact (hfunc.alt_left _).isStuck_notAhead.cat _

/-- The gate does not let a function in of which `class` is at most the last modifier. -/
lemma swiftType_passes (hms : ∀ m ∈ ms, m ∈ swiftWords) (hclass : ("class" : Text) ∉ ms.dropLast)
    (name rest : Text) : swiftType.Passes (swiftHeader ms name rest).text := by
  have hwords : ∀ w ∈ ("func" : Text) :: swiftWords, w ≠ "class" →
      swiftTypeGate.ends false (beginsWith w) = some [] := by
    decide
  refine Rule.passes_of_stuckAt rfl rfl ?_
  refine stuckAt_spaced_of_drop takesWords_swift none false hms fun n => ?_
  change swiftTypeGate.StuckAt false _
  have hcut := List.take_append_drop n ms
  cases hdrop : ms.drop n with
  | nil =>
    exact stuckAt_of_ends (hwords "func" List.mem_cons_self (by decide)) (fits_beginsWith "func" _)
  | cons m ws =>
    by_cases hm : m = "class"
    · -- Nothing but `func` can follow here.
      obtain rfl : ws = [] := by
        by_contra hne
        obtain ⟨u, us, rfl⟩ := List.exists_cons_of_ne_nil hne
        exact hclass (mem_dropLast_iff.mpr ⟨ms.take n, u, us, by rw [← hm, ← hdrop, hcut]⟩)
      rw [hm]
      exact swiftTypeGate_stuckAt_class _
    · have hmem : m ∈ swiftWords := hms m (List.mem_of_mem_drop (hdrop ▸ List.mem_cons_self))
      rw [spaced_cons, List.append_assoc]
      exact stuckAt_of_ends (hwords m (List.mem_cons_of_mem _ hmem) hm) (fits_beginsWith m _)

/-- If another modifier follows, the gate finds a class there. -/
private lemma exists_first_swiftTypeGate (hm : m ∈ swiftWords) (before after : Text) :
    ∃ t, swiftTypeGate.First false (.between before ("class" ++ ' ' :: (m ++ ' ' :: after)) []) t := by
  have hrefused : ∀ w ∈ swiftWords,
      (oneOf [seq ["func", edge], seq ["var", edge], seq ["let", edge]]).ends false (beginsWith w) =
        some [] := by
    decide
  obtain ⟨c, cs, rfl, hc, _⟩ :=
    Text.exists_cons_of_isName (isName_of_mem_swift m (List.mem_cons_of_mem _ hm)).1
  have hc : Text.isAsciiLetter c = true := hc.resolve_right List.not_mem_nil
  have hclass : swiftTypeWords.Consumes false "class" ([' '] ++ (c :: cs ++ ' ' :: after)) :=
    (consumes_word "class" _).alt_left _
  have hgap : gap.Consumes false [' '] (c :: cs ++ ' ' :: after) :=
    consumes_gap (Text.isBlank_of_isWord (Text.isWord_of_isAsciiLetter hc))
  have hstuck := stuckAt_of_ends (hrefused _ hm) (fits_beginsWith _ after)
  have hletter : letter.First false
      (.between (before ++ "class" ++ [' ']) (c :: (cs ++ ' ' :: after)) []) _ :=
    first_set (accepts_letters false hc) _ _ []
  exact ⟨_, (hclass before []).cat ((hgap _ []).cat ((first_notAhead (hstuck _ [])).cat hletter))⟩

/-- The gate lets a function in of which `class` is a modifier, but not the last. -/
lemma swiftType_applies (hms : ∀ m ∈ ms, m ∈ swiftWords) (hclass : ("class" : Text) ∈ ms.dropLast)
    (name rest : Text) : swiftType.applies (swiftHeader ms name rest).text = true := by
  obtain ⟨xs, m, ys, rfl⟩ := mem_dropLast_iff.mp hclass
  have hxs : ∀ u ∈ xs, u ∈ swiftWords := fun u hu => hms u (List.mem_append_left _ hu)
  obtain ⟨t, ht⟩ := exists_first_swiftTypeGate (hms m (by simp)) (spaced xs)
    (spaced ys ++ ("func" ++ ' ' :: (name ++ '(' :: rest)))
  rw [text_swiftHeader_append, spaced_cons, spaced_cons]
  simp only [List.append_assoc, List.cons_append]
  -- The gate is given first, so that it need not be guessed from its parts.
  have happlies := @Rule.applies_of_rounds swiftType _ rfl _ swiftTypeGate rfl
  exact happlies (iterates_swiftRounds hxs rfl) ht

/-! ## The rule for types -/

/-- What follows the name of a class belongs to no type parameters and no supertype. -/
private lemma consumes_swiftTail {c : Char} (hc : Text.isAsciiLetter c = true) (after : Text) :
    (Expr.seq [optAngles, opt [gap0, ":", gap0, parent dotted]]).Consumes false []
      ([' '] ++ c :: after) := by
  have hangles : (Expr.seq [angles]).StuckAt false ([' '] ++ c :: after) :=
    (stuckAt_char (c := '<') rfl).seq _
  have hsupertype : (Expr.seq [gap0, ":", gap0, parent dotted]).StuckAt false ([' '] ++ c :: after) :=
    stuckAt_of_ends (b := .ofText [' '] ++ [Text.asciiLetters]) (by decide)
      (Beginning.fits_ofText_append (Text.mem_asciiLetters hc) [' '] after)
  exact Consumes.seq_nil (v := []) hangles.opt hsupertype.opt.seq_one

/-- After the last `class` more rounds of the loop over the modifiers come to no word for types. -/
private lemma swiftTypeWords_isStuck (hys : ∀ m ∈ ys, m ∈ swiftWords)
    (hlast : ("class" : Text) ∉ ys) {s t : State} {after : Text} {n : Nat}
    (hs : s.rest = spaced (("class" : Text) :: ys) ++ ("func" ++ ' ' :: after))
    (hrounds : Iterates ((Expr.seq [oneOf (swiftWords.map word), gap]).Takes false) (n + 1) s t) :
    swiftTypeWords.IsStuck false t := by
  have htypes : ∀ w ∈ ("func" : Text) :: swiftWords.filter (· ≠ "class"),
      swiftTypeWords.ends false (beginsWith w) = some [] := by
    decide
  have hclass : ∀ m ∈ ("class" : Text) :: ys, m ∈ swiftWords :=
    List.forall_mem_cons.mpr ⟨by decide, hys⟩
  have hrest := rest_of_rounds takesWords_swift hclass hs hrounds
  rw [List.drop_succ_cons] at hrest
  refine StuckAt.isStuck (hrest ▸ stuckAt_of_words htypes (fun m hm => ?_) after)
  have hm := List.mem_of_mem_drop hm
  exact List.mem_filter.mpr ⟨hys m hm, decide_eq_true fun h => hlast (h ▸ hm)⟩

/-- From a `class` on the rule for types finds the class that the next word names. -/
private lemma exists_first_swiftClass (hw : w.isName [] = true)
    (hws : ∀ u ∈ ws, Text.isName u [] = true) (hname : name.isName [] = true) (xs : List Text)
    (rest : Text) :
    ∃ t, t.groups = (swiftTypeHeader xs w ws name rest).groups ∧
      (seq [keyword swiftTypeWords, gap, Language.name (seq [ident, many (seq [".", ident])]), optAngles,
        opt [gap0, ":", gap0, parent dotted]]).First false
          (.between (spaced xs) (swiftTypeHeader xs w ws name rest).fromKeyword []) t := by
  obtain ⟨c, after, hcons, hc⟩ := exists_letter_cons hws hname ('(' :: rest)
  have hrest : (swiftTypeHeader xs w ws name rest).rest = [] ++ ([' '] ++ c :: after) := by
    rw [← hcons]
    rfl
  have hclass : swiftTypeWords.Consumes false "class"
      ([' '] ++ ([] ++ ([] ++ (w ++ (swiftTypeHeader xs w ws name rest).rest)))) :=
    (consumes_word "class" _).alt_left _
  have hgap : gap.Consumes false [' '] (w ++ (swiftTypeHeader xs w ws name rest).rest) :=
    consumes_gap (head?_name (by decide) hw _)
  have hident : (Expr.seq [ident, many (seq [".", ident])]).Consumes false w
      (swiftTypeHeader xs w ws name rest).rest := by
    refine (consumes_ident hw rfl).seq_stay (Consumes.seq_one (StuckAt.many ?_))
    exact (stuckAt_char (c := '.') rfl).seq _
  exact ⟨_, rfl, Rule.first_from_keyword (h := swiftTypeHeader xs w ws name rest) hclass
    (Rule.first_link_of_consumes rfl rfl hgap.seq_one) hident hrest (consumes_swiftTail hc after)⟩

/-- The rule for types takes the word after the last `class` for the name of a class.

**Proof sketch.** The loop over the modifiers takes them all. A word for types must follow, and from
`class` on none of the words is one, so that the loop gives them back. -/
lemma swiftType_reads (hxs : ∀ m ∈ xs, m ∈ swiftWords) (hys : ∀ m ∈ ys, m ∈ swiftWords)
    (hlast : ("class" : Text) ∉ ys) (hws : ys ++ [("func" : Text)] = w :: ws)
    (hname : name.isName [] = true) (rest : Text) :
    swiftType.Reads (swiftTypeHeader xs w ws name rest) := by
  obtain ⟨hw, hwords⟩ := List.forall_mem_cons.mp (isName_of_mem_append_func hys hws)
  obtain ⟨⟨passed, after, _⟩, rfl, hkeyword⟩ := exists_first_swiftClass hw hwords hname xs rest
  have hback : ∀ n u, Iterates ((Expr.seq [oneOf (swiftWords.map word), gap]).Takes false) (n + 1)
      (.between (spaced xs) (swiftTypeHeader xs w ws name rest).fromKeyword []) u →
        swiftTypeWords.IsStuck false u :=
    fun n u hu => swiftTypeWords_isStuck hys hlast (fromKeyword_swiftTypeHeader hws xs name rest) hu
  have hloop := first_many_giveBack (iterates_swiftRounds hxs rfl)
    (fun n u hu => ((hback n u hu).group 1).cat _) hkeyword
  have hfirst : swiftType.pattern.body.First swiftType.pattern.fold
      (.between [] (swiftTypeHeader xs w ws name rest).text []) _ := (first_start _ []).cat hloop
  exact ⟨_, find?_of_first hfirst⟩

/-! ## Lines with such a header -/

/-- The header begins with a word that opens no statement. -/
lemma opensWith_swiftHeader (hms : ∀ m ∈ ms, m ∈ swiftWords) (name rest : Text) :
    Profile.OpensWith
      (fun w => swift.isControlWord w = false ∨
        swift.hasMarker (swiftHeader ms name rest).text = true) (swiftHeader ms name rest).text := by
  have hms' := fun m hm => isName_of_mem_swift m (List.mem_cons_of_mem _ (hms m hm))
  exact opensWith_spaced (fun m hm => (hms' m hm).1) (fun m hm => Or.inl (hms' m hm).2)
    (opensWith_word (w := "func") rfl (Or.inl (by decide)) rfl)

/-- The pieces of the header. -/
lemma isSolid_swiftHeader (hname : name.isName [] = true) (rest : Text) :
    (swiftHeader ms name rest).IsSolid :=
  ⟨rfl, Text.isSolid_of_isName (by simp) hname, Or.inl rfl⟩

/-- A line with a header of which `class` is at most the last modifier declares the function. -/
theorem classify?_swiftHeader (hms : ∀ m ∈ ms, m ∈ swiftWords)
    (hclass : ("class" : Text) ∉ ms.dropLast) (hname : name.isName [] = true) (rest : Text)
    {site : Site} (hline : Text.trim site.line = (swiftHeader ms name rest).text) :
    swift.classify? site = some ((swiftHeader ms name rest).element swift site) := by
  have hrules : swift.rules = [swiftType] ++ swiftFunction :: swift.rules.drop 2 := rfl
  have hpasses : ∀ r ∈ [swiftType], r.Passes (swiftHeader ms name rest).text :=
    List.forall_mem_singleton.mpr (swiftType_passes hms hclass name rest)
  exact Profile.classify?_eq_element (by decide) hline (opensWith_swiftHeader hms name rest)
    (isSolid_swiftHeader hname rest) hrules hpasses (by decide) (Or.inl rfl)
    (swiftFunction_applies ms name rest) (swiftFunction_reads hms hname rest)

/-- A line with another header declares a class named by the word after the last `class`. -/
theorem classify?_swiftTypeHeader (hms : ∀ m ∈ xs ++ ("class" : Text) :: ys, m ∈ swiftWords)
    (hclass : ("class" : Text) ∈ (xs ++ ("class" : Text) :: ys).dropLast)
    (hlast : ("class" : Text) ∉ ys) (hws : ys ++ [("func" : Text)] = w :: ws)
    (hname : name.isName [] = true) (rest : Text) {site : Site}
    (hline : Text.trim site.line = (swiftHeader (xs ++ ("class" : Text) :: ys) name rest).text) :
    swift.classify? site =
      some ((swiftTypeHeader xs w ws name rest).declaration .type swift site) := by
  have hrules : swift.rules = [] ++ swiftType :: swift.rules.drop 1 := rfl
  obtain ⟨hxs, hys⟩ := List.forall_mem_append.mp hms
  have hys := (List.forall_mem_cons.mp hys).2
  have happlies := swiftType_applies hms hclass name rest
  have hopens := opensWith_swiftHeader hms name rest
  rw [← text_swiftTypeHeader hws] at hline happlies hopens
  have hw := isName_of_mem_append_func hys hws w List.mem_cons_self
  have hsolid : (swiftTypeHeader xs w ws name rest).IsSolid :=
    ⟨rfl, Text.isSolid_of_isName (by simp) hw, Or.inl rfl⟩
  exact Profile.classify?_eq_declaration (by decide) hline hopens hsolid hrules
    (List.forall_mem_nil _) (by decide) (Or.inl rfl) happlies
    (swiftType_reads hxs hys hlast hws hname rest)

/-- **A line with the header of a function declares the function, or a class if `class` stands before
another modifier.** The class is named by the word after the last `class`, which may be `func`.

**Proof sketch.** The line is code, since it opens with a word that is no control word. If `class` is
at most the last modifier, the gate of the rule for types refuses the line, since `func` follows, and
the rule for functions reads it. Otherwise the gate lets the line in at a `class` with another
modifier after it, and the pattern of the rule finds a class at the last one. -/
theorem elements_of_swift_header (hms : ∀ m ∈ ms, m ∈ swiftWords) (hname : name.isName [] = true)
    (rest : Text) {lines : List Text} {i : Nat}
    (hline : lines[i]? = some (swiftHeader ms name rest).text) :
    (("class" : Text) ∉ ms.dropLast →
      ∃ e, (swift.elements lines).filter (fun e => e.line = (i : Int) + 1) = [e] ∧
        e.name = name ∧ e.keyword = "func" ∧ e.kind = .function) ∧
    (("class" : Text) ∈ ms.dropLast →
      ∃ e xs ys, (swift.elements lines).filter (fun e => e.line = (i : Int) + 1) = [e] ∧
        ms = xs ++ ("class" : Text) :: ys ∧ ("class" : Text) ∉ ys ∧
        e.name = ys.headD "func" ∧ e.keyword = "class" ∧ e.kind = .type) := by
  have hopens := (opensWith_swiftHeader hms name rest).head?_isBlank
  have htrim : Text.trim (swiftHeader ms name rest).text =
      (swiftHeader ms name (Text.trimEnd rest)).text := by
    rw [Header.trim_text_unindented (isSolid_swiftHeader hname rest) hopens]
    exact congrArg (fun t => Header.text { swiftHeader ms name rest with rest := t })
      (Text.trimEnd_cons rfl rest)
  rw [Profile.filter_elements_of_getElem? hline]
  constructor
  · intro hclass
    rw [classify?_swiftHeader hms hclass hname _ htrim]
    exact ⟨_, rfl, rfl, rfl, swift.kindOf_unindented .function hopens⟩
  · intro hclass
    obtain ⟨xs, ys, rfl, hlast⟩ := exists_last_of_mem (List.dropLast_subset _ hclass)
    obtain ⟨w, ws, hws⟩ := List.exists_cons_of_ne_nil
      (List.append_ne_nil_of_right_ne_nil ys (List.cons_ne_nil ("func" : Text) []))
    rw [classify?_swiftTypeHeader hms hclass hlast hws hname _ htrim]
    refine ⟨_, xs, ys, rfl, rfl, hlast, ?_, rfl, rfl⟩
    change w = ys.headD "func"
    cases ys with
    | nil => exact (List.cons.inj hws).1.symm
    | cons y ys => exact (List.cons.inj hws).1.symm

/-- A function with `class` as its last modifier, and two lines with another modifier after it. -/
theorem elements_of_swift_header_class :
    (∃ e, (swift.elements ["final class Box \x7b", "override class func make() \x7b"]).filter
        (fun e => e.line = 2) = [e] ∧ e.name = "make" ∧ e.keyword = "func" ∧ e.kind = .function) ∧
    (∃ e xs ys, (swift.elements ["public class final override func make() \x7b"]).filter
        (fun e => e.line = 1) = [e] ∧
      (["public", "class", "final", "override"] : List Text) = xs ++ ("class" : Text) :: ys ∧
      ("class" : Text) ∉ ys ∧ e.name = ys.headD "func" ∧ e.keyword = "class" ∧ e.kind = .type) := by
  have hname : Text.isName "make" [] = true := by decide
  have hlast : ∀ m ∈ (["override", "class"] : List Text), m ∈ swiftWords := by decide
  have hbefore : ∀ m ∈ (["public", "class", "final", "override"] : List Text), m ∈ swiftWords := by
    decide
  exact ⟨(elements_of_swift_header hlast hname ") \x7b" (i := 1) rfl).1 (by decide),
    (elements_of_swift_header hbefore hname ") \x7b" (i := 0) rfl).2 (by decide)⟩

/-- A class member that overrides another one is taken for a class, if its modifiers stand in the
less usual order. -/
theorem elements_func_of_class_override :
    ¬ ∃ e ∈ swift.elements ["class override func make() \x7b"],
      e.name = "make" ∧ e.keyword = "func" ∧ e.kind = .function := by
  rintro ⟨e, he, -, hkeyword, -⟩
  obtain ⟨site, -, hmem, hsite⟩ := Profile.exists_site_of_mem_elements he
  have hmodifiers : ∀ m ∈ [] ++ ("class" : Text) :: [("override" : Text)], m ∈ swiftWords := by decide
  have hline : Text.trim site.line = (swiftHeader ["class", "override"] "make" ") \x7b").text := by
    rw [List.mem_singleton.mp hmem]
    rfl
  rw [classify?_swiftTypeHeader hmodifiers (by decide) (by decide) rfl (by decide) _ hline] at hsite
  obtain rfl := Option.some.inj hsite
  have hclass : ("class" : Text) = "func" := hkeyword
  exact absurd hclass (by decide)

end DeclIndex.Language
