import DeclIndex.Language.Lua
import DeclIndex.Proofs.Language.Parts

/-!
# Headers of functions in Lua

A line that begins with `function`, perhaps after `local`, and goes on with a name and an opening
parenthesis declares a function of that name, whatever follows. The name may have an owner before it,
a path of names with dots between them, and a dot or a colon.

The owner is read by a loop that takes the name as well, since it cannot tell the last dot of the
path from the one after it. It gives back the name and the dot.

## Main definitions

* `Language.luaHeader` — the header.

## Main results

* `Language.classify?_luaHeader` — what a line with such a header declares.
* `Language.visibility_luaHeader` — who may use it.
-/

namespace DeclIndex.Language

open Pattern Pattern.Expr

/-- An owner of a function: a path of names, and the dot or colon after it. -/
structure LuaOwner where
  path : Text
  link : Char
  deriving DecidableEq, Repr

/-- The path begins like a name and goes on with word characters and dots. -/
structure LuaOwner.IsValid (o : LuaOwner) : Prop where
  path : o.path.isName ['.'] = true
  head : o.path.head? ≠ some '.'
  link : o.link = '.' ∨ o.link = ':'

/-- The first character of a path and those after it. -/
lemma LuaOwner.IsValid.exists_cons {o : LuaOwner} (ho : o.IsValid) :
    ∃ c rest, o.path = c :: rest ∧ Text.isAsciiLetter c = true ∧
      ∀ d ∈ rest, Text.isWord d = true ∨ d = '.' := by
  obtain ⟨c, rest, hcons, hc, hrest⟩ := Text.exists_cons_of_isName ho.path
  have hdot : c ≠ '.' := fun h => ho.head (by rw [hcons, h]; rfl)
  refine ⟨c, rest, hcons, hc.resolve_right (by simpa using hdot), fun d hd => ?_⟩
  exact (hrest d hd).imp_right List.mem_singleton.mp

/-- The header of a function in Lua. -/
def luaHeader (isLocal : Bool) (owner : Option LuaOwner) (name rest : Text) : Header where
  before := perhaps isLocal "local"
  keyword := "function"
  receiver := owner.elim [] (·.path)
  link := owner.elim [] ([·.link])
  name := name
  rest := '(' :: rest

/-- The rule for functions with a name. -/
def luaFunction : Rule := lua.rules[2]

variable {name : Text}

/-- A name holds neither dots nor colons. -/
private lemma accepts_link_of_mem (hname : name.isName [] = true) {c : Char} (hc : c ∈ name) :
    accepts false false (".:".toList.map .char) c = false :=
  accepts_among_of_isWord (by decide)
    ((Text.isWord_of_mem_of_isName hname hc).resolve_right List.not_mem_nil)

/-- Where no owner is written none is read. -/
private lemma consumes_luaOwner (hname : name.isName [] = true) (rest : Text) :
    luaOwner.Consumes false [] (name ++ '(' :: rest) := by
  refine StuckAt.opt (stuckAt_cat_of_avoids ?_ fun v hv => stuckAt_set ?_)
  · rintro c hc
    obtain rfl := Option.some.inj hc
    decide
  · exact head?_suffix_append hv (fun c hc => accepts_link_of_mem hname hc) rfl

/-- The characters of a path, its first one apart. -/
private lemma accepts_path {c : Char} (hc : Text.isWord c = true ∨ c = '.') :
    accepts false false (.kind .word false :: ".".toList.map .char) c = true := by
  have hwordOr := congrFun (accepts_wordOr ".".toList) c
  rw [hwordOr]
  rcases hc with hc | rfl
  · rw [hc, Bool.true_or]
  · decide

/-- The loop that reads an owner comes to the last dot or to the colon, with what follows as its
continuation. -/
private lemma run_luaPath (hname : name.isName [] = true) {path : Text} {link : Char}
    (hpath : ∀ d ∈ path, Text.isWord d = true ∨ d = '.') (hlink : link = '.' ∨ link = ':')
    {before rest : Text} {groups : List (Nat × Span)} {k : Continuation} {r : State}
    (hk : k (.between (before ++ path) (link :: (name ++ '(' :: rest)) groups) = some r)
    (hfail : ∀ s, s.rest.head?.any (accepts false false (".:".toList.map .char)) = false →
      k s = none) :
    (many (wordOr ".")).run false k
      (.between before (path ++ link :: (name ++ '(' :: rest)) groups) = some r := by
  have hword : ∀ d ∈ path, accepts false false (.kind .word false :: ".".toList.map .char) d = true :=
    fun d hd => accepts_path (hpath d hd)
  rcases hlink with rfl | rfl
  · -- The loop takes the dot and the name, and gives them back.
    have hback : ∀ d ∈ '.' :: name,
        accepts false false (.kind .word false :: ".".toList.map .char) d = true := by
      intro d hd
      refine accepts_path ?_
      rcases List.mem_cons.mp hd with rfl | hd
      · exact Or.inr rfl
      · exact Or.inl ((Text.isWord_of_mem_of_isName hname hd).resolve_right List.not_mem_nil)
    refine (isOne_set _ _).run_many_eq_some (v := '.' :: name) rfl hword before ?_ hk
    intro x y hxy hx
    refine hfail _ ?_
    obtain ⟨d, x, rfl⟩ := List.exists_cons_of_ne_nil hx
    obtain ⟨_, hname'⟩ := List.cons.inj hxy
    have hy : y <:+ name := ⟨x, hname'.symm⟩
    exact head?_suffix_append hy (fun c hc => accepts_link_of_mem hname hc) rfl
  · refine (isOne_set _ _).run_many_eq_some (v := []) rfl hword before ?_ hk
    intro x y hxy hx
    exact absurd (List.nil_eq_append_iff.mp hxy).1 hx

/-- An owner that is written is read, with the dot or colon after it. -/
private lemma first_luaOwner (hname : name.isName [] = true) {owner : LuaOwner} (ho : owner.IsValid)
    (before rest : Text) (groups : List (Nat × Span)) :
    luaOwner.First false
      (.between before (owner.path ++ owner.link :: (name ++ '(' :: rest)) groups)
      (.between (before ++ owner.path ++ [owner.link]) (name ++ '(' :: rest)
        ((4, .after before owner.path) :: groups)) := by
  obtain ⟨c, path, hcons, hc, hpath⟩ := ho.exists_cons
  have hlink : accepts false false (".:".toList.map .char) owner.link = true := by
    rcases ho.link with h | h <;> rw [h] <;> decide
  refine First.opt fun k r hk => ?_
  have hletter : letter.First false
      (.between before (c :: (path ++ owner.link :: (name ++ '(' :: rest))) groups) _ :=
    first_set (accepts_letters false hc) before _ groups
  rw [hcons]
  refine hletter _ r ?_
  refine run_luaPath hname hpath ho.link ?_ fun s hs => ?_
  · have hafter : before ++ [c] ++ path = before ++ owner.path := by simp [hcons]
    have hlast := first_set hlink (before ++ owner.path) (name ++ '(' :: rest)
      ((4, .after before owner.path) :: groups) k r hk
    rw [hafter, State.position_between, State.position_between]
    exact hlast
  · have hstuck : (Expr.among ".:").IsStuck false
        (.between s.passed.reverse s.rest
          ((4, ⟨before.length, s.position⟩) :: s.groups)) := isStuck_set hs
    have hnone := hstuck.run_eq_none k
    rw [State.between, List.reverse_reverse] at hnone
    rw [State.position_between]
    exact hnone

/-- What leads from `function` to the name. -/
private lemma first_luaLink (hname : name.isName [] = true) (isLocal : Bool) {owner : Option LuaOwner}
    (ho : ∀ o ∈ owner, o.IsValid) (rest : Text) :
    let h := luaHeader isLocal owner name rest
    (Expr.seq [gap, luaOwner]).First false
      (.between (h.before ++ h.keyword)
        (h.gap ++ (h.receiver ++ (h.link ++ (h.name ++ h.rest)))) [(1, .after h.before h.keyword)])
      (.between h.upToName (h.name ++ h.rest)
        (h.receiverGroup ++ [(1, .after h.before h.keyword)])) := by
  cases owner with
  | none =>
    refine Rule.first_link_of_consumes rfl rfl ((consumes_gap ?_).seq_stay ?_)
    · exact head?_name (by decide) hname _
    · exact (consumes_luaOwner hname rest).seq_one
  | some o =>
    have ho := ho o rfl
    obtain ⟨c, path, hcons, hc, _⟩ := ho.exists_cons
    refine Rule.first_link_of_receiver ?_ (consumes_gap ?_)
      fun before groups => first_luaOwner hname ho before rest groups
    · change o.path ≠ []
      rw [hcons]
      exact List.cons_ne_nil c path
    · change (o.path ++ _).head?.any Text.isBlank = false
      rw [hcons]
      exact Text.isBlank_of_isWord (Text.isWord_of_isAsciiLetter hc)

/-- The rule for functions reads the header. -/
lemma luaFunction_reads (hname : name.isName [] = true) (isLocal : Bool) {owner : Option LuaOwner}
    (ho : ∀ o ∈ owner, o.IsValid) (rest : Text) :
    luaFunction.Reads (luaHeader isLocal owner name rest) := by
  refine Rule.reads_of_consumes (w := ['(']) start [optWord "local"] "function" [gap, luaOwner]
    ident [gap0, "("] rfl ?_ ?_ ?_ ?_ ?_ rfl ?_
  · exact fun after => first_start after []
  · refine (consumes_optWord isLocal rfl ?_).seq_one
    exact StuckAt.seq (stuckAt_char rfl) _
  · exact consumes_word _ _
  · exact first_luaLink hname isLocal ho rest
  · exact consumes_ident hname rfl
  · exact (consumes_gap0 rfl).seq_nil (consumes_word _ _).seq_one

/-- The gate of the rule for functions lets the header in. -/
lemma luaFunction_applies (isLocal : Bool) (owner : Option LuaOwner) (name rest : Text) :
    luaFunction.applies (luaHeader isLocal owner name rest).text = true := by
  have hgate : ∀ after, (Expr.seq [optWord "local", "function", blank]).Consumes false
      (perhaps isLocal "local" ++ ("function" ++ [' '])) after := by
    intro after
    refine (consumes_optWord isLocal rfl ?_).seq
      ((consumes_word _ _).seq (Consumes.seq_one (consumes_set ?_ _)))
    · exact StuckAt.seq (stuckAt_char rfl) _
    · rw [accepts_blank]
      rfl
  have happlies := Rule.applies_of_consumes (r := luaFunction) rfl rfl (hgate
    ((owner.elim [] (·.path)) ++ ((owner.elim [] ([·.link])) ++ (name ++ '(' :: rest))))
  rw [List.append_assoc, List.append_assoc] at happlies
  exact happlies

/-- The rules before the one for functions leave the header to it. -/
private lemma lua_passes (isLocal : Bool) (owner : Option LuaOwner) (name rest : Text) :
    ∀ r ∈ lua.rules.take 2, r.Passes (luaHeader isLocal owner name rest).text := by
  have hnever : ∀ isLocal, (lua.rules.take 2).all fun r =>
      r.neverClaims (.ofText (perhaps isLocal "local" ++ "function")) := by
    decide
  intro r hr
  refine Rule.passes_of_neverClaims (List.all_eq_true.mp (hnever isLocal) r hr) ?_
  have hfits := Beginning.fits_ofText (perhaps isLocal "local" ++ "function")
  simpa only [Header.text, luaHeader, List.append_assoc] using hfits _

/-- The pieces of the header. -/
lemma isSolid_luaHeader (hname : name.isName [] = true) (isLocal : Bool) {owner : Option LuaOwner}
    (ho : ∀ o ∈ owner, o.IsValid) (rest : Text) : (luaHeader isLocal owner name rest).IsSolid := by
  refine ⟨rfl, Text.isSolid_of_isName (by simp) hname, ?_⟩
  cases owner with
  | none => exact Or.inl rfl
  | some o => exact Or.inr (Text.isSolid_of_isName (by decide) (ho o rfl).path)

/-- The header begins with a word that opens no statement. -/
lemma opensWith_luaHeader (isLocal : Bool) (owner : Option LuaOwner) (name rest : Text) :
    Profile.OpensWith
      (fun w => lua.isControlWord w = false ∨
        lua.hasMarker (luaHeader isLocal owner name rest).text = true)
      (luaHeader isLocal owner name rest).text :=
  opensWith_perhaps isLocal rfl (Or.inl (by decide))
    (opensWith_word (w := "function") rfl (Or.inl (by decide)) rfl)

/-- **What a line with such a header declares.** -/
theorem classify?_luaHeader (hname : name.isName [] = true) (isLocal : Bool)
    {owner : Option LuaOwner} (ho : ∀ o ∈ owner, o.IsValid) (rest : Text) {site : Site}
    (hline : Text.trim site.line = (luaHeader isLocal owner name rest).text) :
    lua.classify? site = some ((luaHeader isLocal owner name rest).element lua site) := by
  have hrules : lua.rules = lua.rules.take 2 ++ luaFunction :: lua.rules.drop 3 := rfl
  exact Profile.classify?_eq_element (by decide) hline (opensWith_luaHeader isLocal owner name rest)
    (isSolid_luaHeader hname isLocal ho rest) hrules (lua_passes isLocal owner name rest) (by decide)
    (Or.inr (by decide)) (luaFunction_applies isLocal owner name rest)
    (luaFunction_reads hname isLocal ho rest)

/-- **Who may use it**: no one else if it is local, everyone otherwise. -/
lemma visibility_luaHeader (isLocal : Bool) (name : Text) :
    lua.visibility name (perhaps isLocal "local") = if isLocal then .priv else .pub := by
  have hwords : ∀ isLocal, lua.visibilityWords.find? (lua.saysVisibility (perhaps isLocal "local")) =
      if isLocal then some (("local" : Text), Visibility.priv) else none := by
    decide
  cases isLocal with
  | true => exact Profile.visibility_of_word (hwords true)
  | false => exact Profile.visibility_of_no_word (hwords false) fun _ h => nomatch h

end DeclIndex.Language
