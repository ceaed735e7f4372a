import DeclIndex.Proofs.Assoc
import DeclIndex.Proofs.Text.Lower
import DeclIndex.Proofs.Text.Trim
import DeclIndex.Registry

/-!
# The last registration wins

A registry is built by registering one profile after the other. Whatever was registered in which
order, an extension belongs to the last profile that has it. A language is found by its exact name,
then by its name in lower case, and then by the earliest name that agrees with it in lower case; of
several profiles with one name the last is meant.

## Main definitions

* `lastSuch?` — the last element of a list that passes a test.
* `Profile.hasExtension` — whether a profile has an extension, in the form in which extensions are
  compared.
* `Registry.named?` — the last profile with a name.
* `Registry.FollowsLast` — the look-ups of a registry follow the last registrations.

## Main results

* `Extension.normalize_normalize` — comparing extensions is comparing normal forms.
* `Registry.ofExtension?_register` — a registration takes over its own extensions only.
* `Registry.ofLanguage?_registerAll` — the look-up of a language by name.
* `Registry.registerAll_followsLast` — the last registration wins.
-/

namespace DeclIndex

open Text

/-- The last element of a list that passes a test. -/
def lastSuch? {α : Type} (test : α → Bool) (l : List α) : Option α :=
  l.reverse.find? test

/-- The last element that passes a test is one of those that come later or, if none does, the
first. -/
lemma lastSuch?_cons {α : Type} (test : α → Bool) (a : α) (l : List α) :
    lastSuch? test (a :: l) = (lastSuch? test l).or (if test a then some a else none) := by
  rw [lastSuch?, lastSuch?, List.reverse_cons, List.find?_append, List.find?_singleton]

/-- There is no last element that passes a test if none passes it. -/
lemma lastSuch?_eq_none_iff {α : Type} {test : α → Bool} {l : List α} :
    lastSuch? test l = none ↔ ∀ a ∈ l, test a = false := by
  simp [lastSuch?, List.find?_eq_none]

/-! ## Extensions -/

/-- An extension in lower case is trimmed if it was trimmed before. -/
private lemma trim_lower_trim (e : Text) : trim (lower (trim e)) = lower (trim e) := by
  rw [trim_eq_self_iff, any_head?_lower, any_getLast?_lower]
  exact ⟨any_head?_trim e, any_getLast?_trim e⟩

/-- A text in lower case stays so with a dot in front. -/
private lemma lower_cons_dot {t : Text} (h : lower t = t) : lower ('.' :: t) = '.' :: t := by
  apply lower_eq_self
  intro c hc
  rcases List.mem_cons.mp hc with rfl | hc
  · decide
  · rw [← h] at hc
    obtain ⟨d, _, passed, rest, hgiven⟩ := exists_of_mem_lower hc
    exact lowerChar_of_mem_lowerOf hgiven

/-- A trimmed text stays so with a dot in front. -/
private lemma trim_cons_dot {t : Text} (h : trim t = t) : trim ('.' :: t) = '.' :: t := by
  rw [trim_eq_self_iff] at h ⊢
  refine ⟨(by decide : isBlank '.' = false), ?_⟩
  cases t with
  | nil => decide
  | cons c t => exact h.2

/-- The normal form of an extension is empty, or it begins with a dot and is trimmed and in lower
case. -/
private lemma normalize_cases (e : Text) : Extension.normalize e = [] ∨
    ∃ t, Extension.normalize e = '.' :: t ∧ trim ('.' :: t) = '.' :: t ∧
      lower ('.' :: t) = '.' :: t := by
  have htrim := trim_lower_trim e
  have hlower := lower_lower (trim e)
  unfold Extension.normalize
  cases hform : lower (trim e) with
  | nil => exact Or.inl rfl
  | cons c rest =>
    rw [hform] at htrim hlower
    right
    by_cases hc : c = '.'
    · subst hc
      exact ⟨rest, if_pos rfl, htrim, hlower⟩
    · exact ⟨c :: rest, if_neg hc, trim_cons_dot htrim, lower_cons_dot hlower⟩

/-- **Comparing extensions is comparing normal forms**: the normal form of an extension is its own
normal form. -/
lemma Extension.normalize_normalize (e : Text) : normalize (normalize e) = normalize e := by
  rcases normalize_cases e with h | ⟨t, h, htrim, hlower⟩
  · rw [h]
    decide
  · rw [h, normalize, htrim, hlower]
    exact if_pos rfl

/-- Whether a profile has an extension, which is given in normal form. -/
def Profile.hasExtension (p : Profile) (e : Text) : Bool :=
  (p.extensions.map Extension.normalize).contains e

namespace Registry

/-! ## Look-ups by extension -/

/-- What a registration does to an extension, given in normal form. -/
lemma lookup_extensions_register (r : Registry) (p : Profile) (e : Text) :
    (r.register p).extensions.lookup e =
      if p.hasExtension e then some p else r.extensions.lookup e := by
  have hwrite := Assoc.lookup_overlay_const e p (p.extensions.map Extension.normalize) r.extensions
  rw [List.map_map] at hwrite
  simp only [register, Profile.hasExtension, List.contains_iff_mem]
  exact hwrite

/-- **A registration takes over its own extensions**, and changes no other look-up. -/
lemma ofExtension?_register (r : Registry) (p : Profile) (e : Text) :
    (r.register p).ofExtension? e =
      if p.hasExtension (Extension.normalize e) then some p else r.ofExtension? e :=
  lookup_extensions_register r p (Extension.normalize e)

/-- After several registrations an extension belongs to the last profile that has it, or to whom it
belonged before. -/
lemma lookup_extensions_registerAll (ps : List Profile) (e : Text) : ∀ r : Registry,
    (r.registerAll ps).extensions.lookup e =
      (lastSuch? (fun p => p.hasExtension e) ps).or (r.extensions.lookup e) := by
  induction ps with
  | nil => intro r; rfl
  | cons p ps ih =>
    intro r
    have hstep : r.registerAll (p :: ps) = (r.register p).registerAll ps := rfl
    rw [hstep, ih, lookup_extensions_register, lastSuch?_cons, Option.or_assoc]
    congr 1
    split <;> rfl

/-- Every extension is listed once. -/
lemma nodup_extensions_registerAll (ps : List Profile) : ∀ {r : Registry},
    (r.extensions.map (·.1)).Nodup → ((r.registerAll ps).extensions.map (·.1)).Nodup := by
  induction ps with
  | nil => exact id
  | cons p ps ih => exact fun hr => ih (Assoc.nodup_keys_overlay _ hr)

/-! ## Look-ups by name -/

/-- The last profile with a given name. -/
def named? (ps : List Profile) (name : Text) : Option Profile :=
  lastSuch? (fun p => p.name == name) ps

/-- After several registrations a name means the last profile with it, or what it meant before. -/
lemma lookup_languages_registerAll (ps : List Profile) (name : Text) : ∀ r : Registry,
    (r.registerAll ps).languages.lookup name = (named? ps name).or (r.languages.lookup name) := by
  induction ps with
  | nil => intro r; rfl
  | cons p ps ih =>
    intro r
    have hstep : r.registerAll (p :: ps) = (r.register p).registerAll ps := rfl
    have hset : (r.register p).languages = Assoc.set p.name p r.languages := rfl
    rw [hstep, ih, hset, Assoc.lookup_set, named?, named?, lastSuch?_cons, Option.or_assoc]
    congr 1
    by_cases hname : name = p.name
    · simp [hname]
    · simp [hname, Ne.symm hname]

/-- The first name that passes a test, in the order of first registration, is that of the first
profile that passes it. -/
lemma find?_names_registerAll (test : Text → Bool) (ps : List Profile) : ∀ r : Registry,
    ((r.registerAll ps).languages.map (·.1)).find? test =
      ((r.languages.map (·.1)).find? test).or ((ps.find? fun p => test p.name).map (·.name)) := by
  induction ps with
  | nil => intro r; simp [registerAll]
  | cons p ps ih =>
    intro r
    have hstep : r.registerAll (p :: ps) = (r.register p).registerAll ps := rfl
    have hset : (r.register p).languages = Assoc.set p.name p r.languages := rfl
    rw [hstep, ih, hset, Assoc.find?_keys_set, Option.or_assoc]
    congr 1
    cases htest : test p.name <;> simp [htest]

/-- **The look-up of a language**: the last profile with that very name, else the last one with the
name in lower case, else the last one with the earliest name that agrees in lower case. -/
lemma ofLanguage?_registerAll (ps : List Profile) (name : Text) :
    (empty.registerAll ps).ofLanguage? name =
      ((named? ps name).or (named? ps (lower name))).or
        ((ps.find? fun p => lower p.name == lower name).bind fun p => named? ps p.name) := by
  have hlookup : ∀ n, (empty.registerAll ps).languages.lookup n = named? ps n := by
    intro n
    rw [lookup_languages_registerAll]
    exact Option.or_none
  have hfirst : ((empty.registerAll ps).languages.find? fun l => lower l.1 == lower name).map (·.2) =
      (ps.find? fun p => lower p.name == lower name).bind fun p => named? ps p.name := by
    rw [Assoc.find?_eq_bind_lookup (fun n => lower n == lower name), find?_names_registerAll]
    simp only [hlookup]
    rw [show empty.languages = [] from rfl, List.map_nil, List.find?_nil, Option.none_or,
      Option.bind_map]
    rfl
  rw [ofLanguage?, hlookup, hlookup, hfirst]
  cases named? ps name with
  | some p => rfl
  | none => cases named? ps (lower name) <;> rfl

/-- A name finds no language if no registered name agrees with it in lower case.

**Proof sketch.** A profile with the name, or with the name in lower case, agrees with it in lower
case, since lower case is its own lower case. A profile that agrees has a name, and the last profile
with that name is found at the latest. -/
lemma ofLanguage?_eq_none_iff (ps : List Profile) (name : Text) :
    (empty.registerAll ps).ofLanguage? name = none ↔ ∀ p ∈ ps, lower p.name ≠ lower name := by
  rw [ofLanguage?_registerAll, Option.or_eq_none_iff, Option.or_eq_none_iff, named?, named?,
    lastSuch?_eq_none_iff, lastSuch?_eq_none_iff]
  constructor
  · rintro ⟨_, hfirst⟩ p hp hagree
    cases hfind : ps.find? fun p => lower p.name == lower name with
    | none => exact List.find?_eq_none.mp hfind p hp (by simpa using hagree)
    | some q =>
      rw [hfind, Option.bind_some, named?, lastSuch?_eq_none_iff] at hfirst
      have hq := hfirst q (List.mem_of_find?_eq_some hfind)
      simp at hq
  · intro h
    refine ⟨⟨fun p hp => ?_, fun p hp => ?_⟩, ?_⟩
    · rw [beq_eq_false_iff_ne]
      rintro rfl
      exact h p hp rfl
    · rw [beq_eq_false_iff_ne]
      intro hname
      exact h p hp (by rw [hname, lower_lower])
    · rw [List.find?_eq_none.mpr fun p hp => by simpa using h p hp]
      rfl

/-! ## The last registration wins -/

/-- The look-ups of a registry follow the last of some registrations. -/
structure FollowsLast (r : Registry) (ps : List Profile) : Prop where
  /-- An extension belongs to the last profile that has it. -/
  ofExtension? : ∀ e, r.ofExtension? e =
    lastSuch? (fun p => p.hasExtension (Extension.normalize e)) ps
  /-- The look-up of an extension gives the profile it belongs to. -/
  ofExtension_ok : ∀ e p, r.ofExtension e = .ok p ↔
    lastSuch? (fun p => p.hasExtension (Extension.normalize e)) ps = some p
  /-- The look-up of an extension fails if no profile has it. -/
  ofExtension_error : ∀ e, r.ofExtension e = .error (.extension e) ↔
    ∀ p ∈ ps, p.hasExtension (Extension.normalize e) = false
  /-- The extensions that are listed are those that profiles have, with the languages they belong
  to. -/
  mem_owners : ∀ e name, (e, name) ∈ r.owners ↔
    ∃ p, lastSuch? (fun p => p.hasExtension e) ps = some p ∧ p.name = name
  /-- Every extension is listed once. -/
  nodup_owners : (r.owners.map (·.1)).Nodup
  /-- The look-up of a language gives the last profile with that very name, else the last one with
  the name in lower case, else the last one with the earliest name that agrees in lower case. -/
  ofLanguage_ok : ∀ name p, r.ofLanguage name = .ok p ↔
    ((named? ps name).or (named? ps (lower name))).or
      ((ps.find? fun p => lower p.name == lower name).bind fun p => named? ps p.name) = some p
  /-- The look-up of a language fails if no name agrees in lower case. -/
  ofLanguage_error : ∀ name, r.ofLanguage name = .error (.language name) ↔
    ∀ p ∈ ps, lower p.name ≠ lower name

/-- The look-ups of a registry follow the last registrations. -/
lemma followsLast_registerAll (ps : List Profile) : (empty.registerAll ps).FollowsLast ps := by
  have hextension : ∀ e, (empty.registerAll ps).extensions.lookup e =
      lastSuch? (fun p => p.hasExtension e) ps := by
    intro e
    rw [lookup_extensions_registerAll]
    exact Option.or_none
  have hnodup : ((empty.registerAll ps).extensions.map (·.1)).Nodup :=
    nodup_extensions_registerAll ps List.nodup_nil
  refine ⟨fun e => hextension _, fun e p => ?_, fun e => ?_, fun e name => ?_, ?_, fun name p => ?_,
    fun name => ?_⟩
  · rw [ofExtension, Registry.ofExtension?, hextension]
    cases lastSuch? (fun p => p.hasExtension (Extension.normalize e)) ps <;> simp
  · rw [ofExtension, Registry.ofExtension?, hextension, ← lastSuch?_eq_none_iff]
    cases lastSuch? (fun p => p.hasExtension (Extension.normalize e)) ps <;> simp
  · rw [← hextension, owners, List.mem_map]
    constructor
    · rintro ⟨⟨k, p⟩, hmem, heq⟩
      cases heq
      exact ⟨p, (Assoc.mem_iff_lookup hnodup k p).mp hmem, rfl⟩
    · rintro ⟨p, hlookup, rfl⟩
      exact ⟨(e, p), (Assoc.mem_iff_lookup hnodup e p).mpr hlookup, rfl⟩
  · rw [owners, List.map_map]
    exact hnodup
  · rw [← ofLanguage?_registerAll, ofLanguage]
    cases (empty.registerAll ps).ofLanguage? name <;> simp
  · rw [← ofLanguage?_eq_none_iff, ofLanguage]
    cases (empty.registerAll ps).ofLanguage? name <;> simp

/-- **The last registration wins.** Whatever profiles are registered one after the other, in an
empty registry or after the built-in ones, all look-ups follow the last registrations: by extension,
by the list of extensions and by the name of a language. A registration changes the look-ups of its
own extensions only, and extensions are compared in a normal form that is its own normal form.

**Proof sketch.** What one registration does to the two lists of a registry is known key by key
(`Registry.lookup_extensions_register`, `Assoc.lookup_set`); by induction over the registrations,
every key has the value that was written last, and the names stand in the order in which they were
first registered. The built-in registry is itself made by registering profiles. -/
theorem registerAll_followsLast :
    (∀ ps, (empty.registerAll ps).FollowsLast ps) ∧
    (∀ extras, (builtin.registerAll extras).FollowsLast (Language.builtin ++ extras)) ∧
    (∀ r p e, (register r p).ofExtension? e =
      if p.hasExtension (Extension.normalize e) then some p else r.ofExtension? e) ∧
    (∀ e, Extension.normalize (Extension.normalize e) = Extension.normalize e) := by
  refine ⟨followsLast_registerAll, fun extras => ?_, ofExtension?_register,
    Extension.normalize_normalize⟩
  have happend : builtin.registerAll extras = empty.registerAll (Language.builtin ++ extras) := by
    rw [builtin, registerAll, registerAll, registerAll, List.foldl_append]
  rw [happend]
  exact followsLast_registerAll _

/-- A name in another case means the last profile with the earliest name that agrees. -/
example :
    ((empty.registerAll [
      { name := "Toy", extensions := ["one"], rules := [] },
      { name := "TOY", extensions := ["two"], rules := [] },
      { name := "Toy", extensions := ["three"], rules := [] }]).ofLanguage? "tOY").map
        (·.extensions) = some ["three".toList] := by
  decide +kernel

end Registry

end DeclIndex
