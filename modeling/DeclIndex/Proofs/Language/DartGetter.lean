import DeclIndex.Language.Dart
import DeclIndex.Proofs.Language.Parts
import DeclIndex.Proofs.Pattern.TakesOnly

/-!
# Getters of Dart

A getter may begin with its type. The gate of the rule looks for `get`, a name and an arrow or an
opening bracket anywhere in the line, so that it lets in a getter of any type. The pattern of the
rule takes a type without white space. Type arguments are written with a space after each comma, and
a getter whose type has several of them is claimed by the rule and lost.

## Main definitions

* `Language.DartType` — types with type arguments.
* `Language.DartType.hasMany` — whether somewhere in a type several arguments stand together.
* `Language.dartGetterHeader` — the header of a getter.

## Main results

* `Language.elements_of_dart_getter` — an indented line with a getter declares a method, except if
  its type has several arguments somewhere.
-/

namespace DeclIndex.Language

open Pattern Pattern.Expr

/-! ## Types -/

/-- A type: a name with a capital initial, perhaps with arguments. -/
inductive DartType
  | plain (name : Text.CapitalName)
  | applied (name : Text.CapitalName) (first : DartType) (more : List DartType)

namespace DartType

mutual

/-- How a type is written. -/
def text : DartType → Text
  | plain name => name.text
  | applied name first more => name.text ++ '<' :: (first.text ++ (moreText more ++ ['>']))

/-- How the further arguments of a type are written. -/
def moreText : List DartType → Text
  | [] => []
  | t :: more => ',' :: ' ' :: (t.text ++ moreText more)

end

/-- Whether somewhere in a type several arguments stand together. -/
def hasMany : DartType → Bool
  | plain _ => false
  | applied _ first [] => first.hasMany
  | applied _ _ (_ :: _) => true

/-- The name that a type begins with. -/
def root : DartType → Text.CapitalName
  | plain name | applied name _ _ => name

/-- What follows the name is no part of it. -/
lemma exists_text_eq (t : DartType) : ∃ rest, t.text = t.root.text ++ rest ∧
    ∀ after : Text, after.head?.any Text.isWord = false →
      (rest ++ after).head?.any Text.isWord = false := by
  cases t with
  | plain name => exact ⟨[], by simp [text, root], fun after h => h⟩
  | applied name first more => exact ⟨_, rfl, fun after _ => rfl⟩

/-- A type begins with a capital letter. -/
lemma exists_cons (t : DartType) : ∃ c rest, t.text = c :: rest ∧ c ∈ Text.capitals := by
  obtain ⟨rest, htext, _⟩ := t.exists_text_eq
  obtain ⟨c, cs, hname, hc, _⟩ := t.root.exists_cons
  exact ⟨c, cs ++ rest, by rw [htext, hname, List.cons_append], hc⟩

/-- The characters that the rule takes for parts of a type. -/
def isTypeChar (c : Char) : Bool :=
  accepts false false (.kind .word false :: "<>?,".toList.map .char) c

lemma isTypeChar_eq (c : Char) : isTypeChar c = (Text.isWord c || decide (c ∈ "<>?,".toList)) :=
  congrFun (accepts_wordOr "<>?,".toList) c

/-- No part of a type is white space. -/
lemma isBlank_of_isTypeChar {c : Char} (hc : isTypeChar c = true) : Text.isBlank c = false := by
  have hmarks : ∀ d ∈ "<>?,".toList, (!Text.isBlank d) = true := List.all_eq_true.mp (by decide)
  rw [isTypeChar_eq, Bool.or_eq_true, decide_eq_true_eq] at hc
  exact hc.elim Text.isBlank_of_isWord fun hmark => Bool.not_eq_true' _ ▸ hmarks c hmark

/-- A name is part of a type. -/
lemma isTypeChar_of_mem (name : Text.CapitalName) : ∀ c ∈ name.text, isTypeChar c = true := by
  intro c hc
  rw [isTypeChar_eq, name.isWord_of_mem hc, Bool.true_or]

/-- A name and an opening bracket are part of a type. -/
private lemma isTypeChar_of_mem_applied (name : Text.CapitalName) {u : Text}
    (hu : ∀ c ∈ u, isTypeChar c = true) : ∀ c ∈ name.text ++ '<' :: u, isTypeChar c = true :=
  List.forall_mem_append.mpr
    ⟨isTypeChar_of_mem name, List.forall_mem_cons.mpr ⟨by decide, hu⟩⟩

/-- The rule can take a type in which nowhere several arguments stand together. -/
lemma isTypeChar_of_mem_text : (t : DartType) → t.hasMany = false →
    ∀ c ∈ t.text, isTypeChar c = true
  | plain name, _ => isTypeChar_of_mem name
  | applied name first [], h => by
    have hfirst := isTypeChar_of_mem_text first h
    have hclose : ∀ c ∈ moreText [] ++ ['>'], isTypeChar c = true :=
      List.forall_mem_singleton.mpr rfl
    exact isTypeChar_of_mem_applied name (List.forall_mem_append.mpr ⟨hfirst, hclose⟩)
  | applied _ _ (_ :: _), h => absurd h (by simp [hasMany])

/-- A type in which somewhere several arguments stand together has a space between characters of
which the second is a capital letter. The first space is such a one. -/
lemma exists_space_of_hasMany : (t : DartType) → t.hasMany = true →
    ∃ u c rest, t.text = u ++ ' ' :: c :: rest ∧ (∀ d ∈ u, isTypeChar d = true) ∧
      c ∈ Text.capitals
  | plain _, h => absurd h (by simp [hasMany])
  | applied name first more, h => by
    cases hfirst : first.hasMany with
    | true =>
      obtain ⟨u, c, rest, htext, hu, hc⟩ := exists_space_of_hasMany first hfirst
      exact ⟨name.text ++ '<' :: u, c, rest ++ (moreText more ++ ['>']), by simp [text, htext],
        isTypeChar_of_mem_applied name hu, hc⟩
    | false =>
      cases more with
      | nil => exact absurd (hfirst.symm.trans h) (by decide)
      | cons t more =>
        obtain ⟨c, rest, htext, hc⟩ := t.exists_cons
        have hcomma : ∀ d ∈ first.text ++ [','], isTypeChar d = true :=
          List.forall_mem_append.mpr
            ⟨isTypeChar_of_mem_text first hfirst, List.forall_mem_singleton.mpr rfl⟩
        exact ⟨name.text ++ '<' :: (first.text ++ [',']), c, rest ++ (moreText more ++ ['>']),
          by simp [text, moreText, htext], isTypeChar_of_mem_applied name hcomma, hc⟩

end DartType

/-! ## The header -/

/-- The header of a getter in Dart, with a type and an expression as its body. -/
def dartGetterHeader (t : DartType) (name expression : Text) : Header where
  before := t.text ++ [' ']
  keyword := "get"
  name := name
  rest := " => " ++ (expression ++ [';'])

/-- The rule for getters. -/
def dartGetter : Rule := dart.rules[2]

variable {t : DartType} {name : Text}

/-- The pieces of the header. -/
lemma isSolid_dartGetterHeader (t : DartType) (hname : name.isName [] = true) (expression : Text) :
    (dartGetterHeader t name expression).IsSolid :=
  ⟨rfl, Text.isSolid_of_isName (by simp) hname, Or.inl rfl⟩

/-- The header begins with a capital letter. -/
private lemma exists_cons_text (t : DartType) (name expression : Text) :
    ∃ c rest, (dartGetterHeader t name expression).text = c :: rest ∧ c ∈ Text.capitals := by
  obtain ⟨c, rest, htext, hc⟩ := t.exists_cons
  exact ⟨c, _, by rw [Header.text, dartGetterHeader, htext]; rfl, hc⟩

/-- What is known of a line that begins with a capital letter. -/
private lemma fits_capital {c : Char} (hc : c ∈ Text.capitals) (rest : Text) :
    Beginning.Fits [Text.capitals] (c :: rest) :=
  Beginning.fits_ofText_append hc [] rest

/-- The header begins with a word that opens no statement. -/
lemma opensWith_dartGetterHeader (t : DartType) (name expression : Text) :
    Profile.OpensWith
      (fun w => dart.isControlWord w = false ∨
        dart.hasMarker (dartGetterHeader t name expression).text = true)
      (dartGetterHeader t name expression).text := by
  obtain ⟨rest, htext, hrest⟩ := t.exists_text_eq
  refine ⟨t.root.text, rest ++ (' ' :: (dartGetterHeader t name expression).fromKeyword), ?_,
    t.root.isName, hrest _ rfl, Or.inl (Profile.isControlWord_capital rfl (by decide) t.root)⟩
  rw [Header.text_eq_before, dartGetterHeader, htext]
  simp

/-- The rules before the one for getters leave the header to it. -/
lemma dart_passes (t : DartType) (name expression : Text) :
    ∀ r ∈ dart.rules.take 2, r.Passes (dartGetterHeader t name expression).text := by
  have hnever : (dart.rules.take 2).all fun r => r.neverClaims [Text.capitals] := by decide
  obtain ⟨c, rest, htext, hc⟩ := exists_cons_text t name expression
  intro r hr
  refine Rule.passes_of_neverClaims (List.all_eq_true.mp hnever r hr) ?_
  rw [htext]
  exact fits_capital hc rest

/-! ## The rule for getters -/

/-- The gate of the rule for getters lets the header in, whatever the type. -/
lemma dartGetter_applies (t : DartType) (hname : name.isName [] = true) (expression : Text) :
    dartGetter.applies (dartGetterHeader t name expression).text = true := by
  obtain ⟨c, cs, rfl, hc, hcs⟩ := Text.exists_cons_of_isName hname
  have hc : Text.isAsciiLetter c = true := hc.resolve_right List.not_mem_nil
  have hcs : ∀ d ∈ cs, accepts false false [.kind .word false] d = true := fun d hd => by
    rw [accepts_wordChar]
    exact (hcs d hd).resolve_right List.not_mem_nil
  have hedge : edge.First false
      (.between (t.text ++ [' ']) (dartGetterHeader t (c :: cs) expression).fromKeyword [])
      (.between (t.text ++ [' ']) (dartGetterHeader t (c :: cs) expression).fromKeyword []) := by
    refine first_edge ?_
    rw [List.getLast?_append_of_ne_nil _ (List.cons_ne_nil _ _)]
    rfl
  have hgap : gap.Consumes false [' '] ([c] ++ (cs ++ ([' '] ++ "=>".toList)) ++
      (' ' :: (expression ++ [';']))) :=
    consumes_gap (Text.isBlank_of_isWord (Text.isWord_of_isAsciiLetter hc))
  have hgate : (Expr.seq [oneOf ["get", "set"], gap, letter, many wordChar, gap0,
      oneOf ["=>", openBrace, "("]]).Consumes false
        ("get" ++ ([' '] ++ ([c] ++ (cs ++ ([' '] ++ "=>".toList))))) (' ' :: (expression ++ [';'])) :=
    Consumes.seq ((consumes_word "get" _).alt_left _) (hgap.seq
      ((consumes_set (accepts_letters false hc) _).seq ((consumes_many_set hcs rfl).seq
        ((consumes_gap0_space rfl).seq ((consumes_word "=>" _).alt_left _).seq_one))))
  have htext : (dartGetterHeader t (c :: cs) expression).fromKeyword =
      ("get" ++ ([' '] ++ ([c] ++ (cs ++ ([' '] ++ "=>".toList))))) ++ (' ' :: (expression ++ [';'])) := by
    simp [Header.fromKeyword, dartGetterHeader]
  rw [htext] at hedge
  have hrun := hedge.cat (hgate (t.text ++ [' ']) []) some _ rfl
  rw [Header.text_eq_before, htext]
  exact Rule.applies_of_isSome_run (r := dartGetter) rfl (Option.isSome_iff_exists.mpr ⟨_, hrun⟩)

/-- The rule for getters reads the header if nowhere in the type several arguments stand together. -/
lemma dartGetter_reads (ht : t.hasMany = false) (hname : name.isName [] = true) (expression : Text) :
    dartGetter.Reads (dartGetterHeader t name expression) := by
  have hcapital : ∀ e ∈ [(Expr.seq ["static", gap])], e.ends false [Text.capitals] = some [] := by
    decide
  obtain ⟨c, rest, htext, hc⟩ := t.exists_cons
  have hstatic : (Expr.seq ["static", gap]).StuckAt false
      ((t.text ++ [' ']) ++ (dartGetterHeader t name expression).fromKeyword) := by
    refine stuckAt_of_ends (hcapital _ List.mem_cons_self) ?_
    rw [htext]
    exact fits_capital hc _
  have hne : t.text ≠ [] := by
    rw [htext]
    exact List.cons_ne_nil c rest
  have htype : (some1 (wordOr "<>?,")).Consumes false t.text
      ([' '] ++ (dartGetterHeader t name expression).fromKeyword) :=
    consumes_some1_set (t.isTypeChar_of_mem_text ht) hne rfl
  have hgap : gap.Consumes false [' '] (dartGetterHeader t name expression).fromKeyword :=
    consumes_gap rfl
  refine Rule.reads_of_consumes (w := []) start [optWord "static", opt [some1 (wordOr "<>?,"), gap]]
    (oneOf ["get", "set"]) [gap] ident [] rfl (fun after => first_start after [])
    (hstatic.opt.seq_nil (htype.seq hgap.seq_one).opt.seq_one) ((consumes_word "get" _).alt_left _)
    (Rule.first_link_of_consumes rfl rfl (Consumes.seq_one (consumes_gap ?_)))
    (consumes_ident hname rfl) rfl consumes_empty
  exact head?_name (by decide) hname _

/-- What the rule takes for a type with a space after it ends at the first space. -/
private lemma rest_of_typePart {u x y rest after : Text} {c : Char}
    (hu : ∀ d ∈ u, DartType.isTypeChar d = true) (hc : c ∈ Text.capitals)
    (hx : ∀ d ∈ x, DartType.isTypeChar d = true) (hne : y ≠ []) (hy : ∀ d ∈ y, Text.isBlank d = true)
    (htext : u ++ ' ' :: c :: rest = x ++ (y ++ after)) : after = c :: rest := by
  have hcapitals : ∀ d ∈ Text.capitals, (!Text.isBlank d) = true := List.all_eq_true.mp (by decide)
  obtain ⟨b, y, rfl⟩ := List.exists_cons_of_ne_nil hne
  have hhead : (b :: y ++ after).head?.any Text.isBlank = true := hy b List.mem_cons_self
  obtain ⟨-, heq⟩ := Text.append_inj_of_head (fun d hd => DartType.isBlank_of_isTypeChar (hu d hd))
    (fun d hd => DartType.isBlank_of_isTypeChar (hx d hd)) rfl hhead htext
  cases y with
  | nil => exact (List.cons.inj heq).2.symm
  | cons d y =>
    obtain ⟨rfl, _⟩ := List.cons.inj (List.cons.inj heq).2
    have hblank := hy c (by simp)
    exact absurd (hcapitals c hc) (by rw [hblank]; decide)

/-- The rule for getters finds nothing if somewhere in the type several arguments stand together.

**Proof sketch.** What the rule takes for the type ends at the first space, if it takes anything.
There and at the start of the line a capital letter stands, and not the word for a getter. -/
lemma dartGetter_find?_eq_none (ht : t.hasMany = true) (name expression : Text) :
    dartGetter.pattern.find? (dartGetterHeader t name expression).text = none := by
  have hcapital : ∀ e ∈ [seq ["static", gap], seq [keyword (oneOf ["get", "set"]), gap,
      Language.name ident]], e.ends false [Text.capitals] = some [] := by
    decide
  obtain ⟨c, rest, htext, hc⟩ := exists_cons_text t name expression
  obtain ⟨u, d, after, hsplit, hu, hd⟩ := t.exists_space_of_hasMany ht
  refine find?_eq_none_of_stuckAt rfl fun before groups => ?_
  have hstatic : (Expr.seq ["static", gap]).StuckAt false
      (dartGetterHeader t name expression).text :=
    stuckAt_of_ends (hcapital _ (by simp)) (htext ▸ fits_capital hc rest)
  refine isStuck_cat fun s hs => ?_
  obtain rfl := (hstatic before groups).eq_of_opt hs
  refine isStuck_cat fun s hs => ?_
  obtain ⟨v, hv, hparts⟩ := ((takesOnly_some1_set _ _).seq (takesOnly_some1_set _ _).seq_one).opt hs
  have hrest : ∃ c rest, s.rest = c :: rest ∧ c ∈ Text.capitals := by
    rcases hparts with rfl | ⟨x, y, rfl, ⟨_, hx⟩, hne, hy⟩
    · exact ⟨c, rest, by rw [← htext]; exact hv.symm, hc⟩
    · rw [accepts_blank] at hy
      have hline : (dartGetterHeader t name expression).text =
          u ++ ' ' :: d :: (after ++ ' ' :: (dartGetterHeader t name expression).fromKeyword) := by
        rw [Header.text_eq_before, dartGetterHeader, hsplit]
        simp
      rw [State.rest_between, hline, List.append_assoc] at hv
      exact ⟨d, _, rest_of_typePart hu hd hx hne hy hv, hd⟩
  obtain ⟨c, rest, hrest, hc⟩ := hrest
  exact (stuckAt_of_ends (hcapital _ (by simp)) (hrest ▸ fits_capital hc rest)).isStuck

/-! ## Lines with such a header -/

/-- What a line with a getter declares: nothing, if somewhere in its type several arguments stand
together. -/
theorem classify?_dartGetterHeader (t : DartType) (hname : name.isName [] = true) (expression : Text)
    {site : Site} (hline : Text.trim site.line = (dartGetterHeader t name expression).text) :
    dart.classify? site = if t.hasMany then none
      else some ((dartGetterHeader t name expression).element dart site) := by
  have hrules : dart.rules = dart.rules.take 2 ++ dartGetter :: dart.rules.drop 3 := rfl
  have hpasses := dart_passes t name expression
  have happlies := dartGetter_applies t hname expression
  refine Profile.classify?_of_header (by decide) hline (opensWith_dartGetterHeader t name expression) ?_
  rw [hrules]
  cases ht : t.hasMany with
  | true =>
    exact Profile.applyRules_of_claimed hpasses rfl rfl happlies
      (dartGetter_find?_eq_none ht name expression) site _
  | false =>
    exact Profile.applyRules_of_reads (isSolid_dartGetterHeader t hname expression) hpasses
      (by decide) (Or.inl rfl) happlies (dartGetter_reads ht hname expression) site _

/-- **An indented line with a getter declares a method, except if its type somewhere has several
arguments.** Then it declares nothing.

**Proof sketch.** The line is code, since it begins with the name of a type. The gate of the rule for
getters finds `get`, the name and the arrow and lets the line in. A type without white space is taken
by the rule up to the space before `get`. In a type with several arguments the first space comes
earlier, and after it the next argument stands, where the rule asks for `get` or `set`. -/
theorem elements_of_dart_getter (t : DartType) (hname : name.isName [] = true) (expression : Text)
    {indent : Text} (hindent : ∀ c ∈ indent, Text.isBlank c = true) (hne : indent ≠ [])
    {lines : List Text} {i : Nat}
    (hline : lines[i]? = some (indent ++ (dartGetterHeader t name expression).text)) :
    (t.hasMany = false →
      ∃ e, (dart.elements lines).filter (fun e => e.line = (i : Int) + 1) = [e] ∧
        e.name = name ∧ e.keyword = "get" ∧ e.kind = .method) ∧
    (t.hasMany = true →
      (dart.elements lines).filter (fun e => e.line = (i : Int) + 1) = []) := by
  have hopens := (opensWith_dartGetterHeader t name expression).head?_isBlank
  have hend : Text.trimEnd (" => " ++ (expression ++ [';'])) = " => " ++ (expression ++ [';']) := by
    refine Text.trimEnd_eq_self ?_
    rw [← List.append_assoc, List.getLast?_append_of_ne_nil _ (List.cons_ne_nil _ _)]
    rfl
  have htrim : Text.trim (indent ++ (dartGetterHeader t name expression).text) =
      (dartGetterHeader t name expression).text := by
    rw [Header.trim_text (isSolid_dartGetterHeader t hname expression) hopens hindent]
    exact congrArg (fun rest => Header.text { dartGetterHeader t name expression with rest := rest }) hend
  have hkind := Profile.kindOf_indented (p := dart) rfl hindent hne
    (dartGetterHeader t name expression).text []
  rw [Profile.filter_elements_of_getElem? hline,
    classify?_dartGetterHeader t hname expression htrim]
  constructor
  · intro ht
    rw [if_neg (by simp [ht])]
    exact ⟨_, rfl, rfl, rfl, hkind⟩
  · intro ht
    rw [if_pos ht]
    rfl

/-- A getter whose type has one argument with one argument, and one whose type has two. -/
theorem elements_of_dart_getter_map :
    (∃ e, (dart.elements ["class Box \x7b", "  Future<List<Object>> get items => _items;"]).filter
        (fun e => e.line = 2) = [e] ∧ e.name = "items" ∧ e.keyword = "get" ∧ e.kind = .method) ∧
    (dart.elements ["class Box \x7b", "  Map<String, Object> get headers => _headers;"]).filter
        (fun e => e.line = 2) = [] := by
  have hindent : ∀ c ∈ ("  " : Text), Text.isBlank c = true := List.all_eq_true.mp (by decide)
  have hitems : Text.isName "items" [] = true := by decide
  have hheaders : Text.isName "headers" [] = true := by decide
  have hfuture : (["class Box \x7b", "  Future<List<Object>> get items => _items;"] : List Text)[1]? =
      some ("  " ++ (dartGetterHeader
        (.applied { text := "Future" } (.applied { text := "List" } (.plain { text := "Object" }) []) [])
          "items" "_items").text) := rfl
  have hmap : (["class Box \x7b", "  Map<String, Object> get headers => _headers;"] : List Text)[1]? =
      some ("  " ++ (dartGetterHeader
        (.applied { text := "Map" } (.plain { text := "String" }) [.plain { text := "Object" }])
          "headers" "_headers").text) := rfl
  exact ⟨(elements_of_dart_getter _ hitems _ hindent (by decide) hfuture).1 rfl,
    (elements_of_dart_getter _ hheaders _ hindent (by decide) hmap).2 rfl⟩

/-- A getter is lost if its type is written with a space. -/
theorem elements_get_of_map :
    ¬ ∃ e ∈ dart.elements ["  Map<String, Object> get headers => _headers;"],
      e.name = "headers" ∧ e.keyword = "get" ∧ e.kind = .method := by
  rintro ⟨e, he, -⟩
  obtain ⟨site, -, hmem, hsite⟩ := Profile.exists_site_of_mem_elements he
  have hline : Text.trim site.line = (dartGetterHeader
      (.applied { text := "Map" } (.plain { text := "String" }) [.plain { text := "Object" }])
        "headers" "_headers").text := by
    rw [List.mem_singleton.mp hmem]
    rfl
  have hnone : dart.classify? site = none := by
    rw [classify?_dartGetterHeader _ (by decide) _ hline]
    rfl
  rw [hnone] at hsite
  exact absurd hsite (by simp)

end DeclIndex.Language
