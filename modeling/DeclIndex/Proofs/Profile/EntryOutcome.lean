import DeclIndex.Proofs.Profile.Entry
import DeclIndex.Proofs.Profile.EntryRules

/-!
# What comes of an entry

An entry describes a well-formed profile or has a fault, whatever values its fields hold. The faults
that an entry has are listed without regard to the order in which they are looked for
(`Entry.Refuses`): each is a property of its fields. All have a message, save for those of a pattern
that no one is prepared for.

## Main definitions

* `Entry.HoldsTexts` — a value holds some texts.
* `Entry.Refuses` — the faults that an entry has.
* `Entry.Describes` — a profile is well formed and has the rules of an entry.

## Main results

* `Entry.refuses_of_profile_eq_error` — the fault that is reported is one that the entry has.
* `Entry.describes_of_hasParts`, `Entry.not_refuses_of_hasParts` — the profile of an entry is well
  formed, and the entry has no fault.
* `Entry.describes_or_refuses` — the outcome of an entry, and that of a list of entries.
-/

namespace DeclIndex.Entry

variable {entry : Value} {language : Text} {fault : Fault}

/-! ## Texts -/

/-- The value holds some texts: it is a text itself, or a list of texts. -/
inductive HoldsTexts : Value → List Text → Prop
  | one (t : Text) : HoldsTexts (.text t) [t]
  | list (ts : List Text) : HoldsTexts (.list (ts.map .text)) ts

/-- The texts in a list of texts. -/
lemma filterMap_text?_map (ts : List Text) : (ts.map Value.text).filterMap Value.text? = ts := by
  rw [List.filterMap_map]
  exact List.filterMap_some

/-- A list all of whose items are texts is a list of texts. -/
lemma exists_eq_map_text {items : List Value}
    (h : (items.all fun v => v.text?.isSome) = true) : ∃ ts : List Text, items = ts.map .text := by
  induction items with
  | nil => exact ⟨[], rfl⟩
  | cons v items ih =>
    rw [List.all_cons, Bool.and_eq_true] at h
    obtain ⟨t, ht⟩ := Option.isSome_iff_exists.mp h.1
    obtain ⟨ts, rfl⟩ := ih h.2
    cases v <;> cases ht
    exact ⟨t :: ts, rfl⟩

/-- The texts of a field that may be absent. -/
lemma texts_eq_ok_iff {key : Text} {ts : List Text} :
    texts entry language key = .ok ts ↔
      entry.field? key = none ∧ ts = [] ∨
        ∃ v, entry.field? key = some v ∧ HoldsTexts v ts := by
  unfold texts
  cases entry.field? key with
  | none => simp [eq_comm]
  | some v =>
    simp only [reduceCtorEq, false_and, false_or, Option.some.injEq, exists_eq_left']
    cases v with
    | text t =>
      constructor
      · rintro h
        cases h
        exact .one t
      · rintro ⟨⟩
        rfl
    | list items =>
      dsimp only
      constructor
      · intro h
        split_ifs at h with hall
        obtain ⟨ts', rfl⟩ := exists_eq_map_text hall
        rw [filterMap_text?_map] at h
        cases h
        exact .list ts
      · rintro ⟨⟩
        rw [filterMap_text?_map, if_pos (by simp [Value.text?])]
    | _ => exact ⟨nofun, nofun⟩

/-- A field that is read holds its texts. -/
lemma holdsTexts_of_texts_eq_ok {key : Text} {ts : List Text} {v : Value}
    (h : texts entry language key = .ok ts) (hv : entry.field? key = some v) :
    HoldsTexts v ts := by
  rcases texts_eq_ok_iff.mp h with ⟨hnone, -⟩ | ⟨v', hv', hholds⟩
  · rw [hv] at hnone
    cases hnone
  · rw [hv] at hv'
    cases hv'
    exact hholds

/-- A field at fault holds no texts. -/
lemma exists_of_texts_eq_error {key : Text} (h : texts entry language key = .error fault) :
    fault = .notTexts language key ∧
      ∃ v, entry.field? key = some v ∧ ∀ ts, ¬HoldsTexts v ts := by
  have hfault : fault = .notTexts language key := by
    unfold texts at h
    split at h <;> try split_ifs at h
    all_goals cases h
    all_goals rfl
  have hnot : ∀ ts, texts entry language key ≠ .ok ts := fun ts => by rw [h]; nofun
  simp only [ne_eq, texts_eq_ok_iff, not_or, not_exists, not_and] at hnot
  cases hfield : entry.field? key with
  | none => exact absurd rfl ((hnot []).1 hfield)
  | some v => exact ⟨hfault, v, rfl, fun ts => (hnot ts).2 v hfield⟩

/-! ## Other fields -/

/-- The name of a language is the text in its field. -/
lemma field?_of_name_eq_ok (h : name entry = .ok language) :
    entry.field? "name" = some (.text language) ∧ language ≠ [] := by
  unfold name at h
  split at h
  · split at h
    · rename_i c t hfield
      cases h
      exact ⟨eq_some_of_getD_null hfield, List.cons_ne_nil c t⟩
    · cases h
  · cases h

/-- The marker of documentation is the text in its field. -/
lemma field?_of_docMarker_eq_ok {marker : Text} (h : docMarker entry language = .ok marker) :
    (entry.field? "doc_marker").getD (.ofString "//") = .text marker := by
  unfold docMarker at h
  split at h
  · rename_i hfield
    cases h
    exact hfield
  · cases h

/-- A value stands for the choice whose word it is. -/
lemma eq_word_of_bind_find? {α : Type} {all : List α} {word : α → Text} {v : Value} {a : α}
    (h : (v.text?.bind fun t => all.find? fun b => word b == t) = some a) :
    v = .text (word a) := by
  obtain ⟨t, ht, hfind⟩ := Option.bind_eq_some_iff.mp h
  have hword : (word a == t) = true := List.find?_some (p := fun b => word b == t) hfind
  rw [eq_of_beq hword]
  cases v <;> cases ht
  rfl

/-- A value that stands for no choice is the word of none. -/
lemma ne_word_of_bind_find? {α : Type} {all : List α} {word : α → Text} {v : Value}
    (h : (v.text?.bind fun t => all.find? fun b => word b == t) = none) {a : α} (ha : a ∈ all) :
    v ≠ .text (word a) := by
  rintro rfl
  exact List.find?_eq_none.mp h a ha (beq_self_eq_true (word a))

/-- A place of the documentation is the one whose word the field holds. -/
lemma field?_of_placement_eq_ok {place : Placement} (h : placement entry language = .ok place) :
    (entry.field? "doc_placement").getD (.ofString "before") = .text place.word := by
  unfold placement at h
  split at h
  · rename_i hfind
    cases h
    exact eq_word_of_bind_find? hfind
  · cases h

/-- A way to tell methods is the one whose word the field holds. -/
lemma field?_of_detection_eq_ok {way : MethodDetection} (h : detection entry language = .ok way) :
    (entry.field? "method_detection").getD (.ofString "indent") = .text way.word := by
  unfold detection at h
  split at h
  · rename_i hfind
    cases h
    exact eq_word_of_bind_find? hfind
  · cases h

/-- No text is distinct from all texts of a list. -/
lemma distinct_ne_nil {ts : List Text} (h : ts ≠ []) : distinct ts ≠ [] := by
  obtain ⟨t, ts, rfl⟩ := List.exists_cons_of_ne_nil h
  exact List.cons_ne_nil _ _

/-! ## Faults -/

section

variable [Host]

/-- The faults that an entry has, in whatever order they are looked for. -/
inductive Refuses (entry : Value) : Fault → Prop
  | notAnObject (h : ∀ fields, entry ≠ .object fields) : Refuses entry (.notAnObject entry.kindWord)
  | noName (h : ∀ language ≠ [], entry.field? "name" ≠ some (.text language)) :
      Refuses entry .noName
  | notTexts {language key : Text} {v : Value}
      (hname : entry.field? "name" = some (.text language))
      (hkey : key ∈ ["extensions".toList, "comment_markers".toList, "control_keywords".toList])
      (hv : entry.field? key = some v) (h : ∀ ts, ¬HoldsTexts v ts) :
      Refuses entry (.notTexts language key)
  | noExtensions {language : Text} (hname : entry.field? "name" = some (.text language))
      (h : entry.field? "extensions" = none ∨ entry.field? "extensions" = some (.list [])) :
      Refuses entry (.noExtensions language)
  | notAPattern {language : Text} {kind : Kind}
      (hname : entry.field? "name" = some (.text language)) (hkind : kind ∈ ruleKinds)
      (h : Misplaced entry kind) : Refuses entry (.notAPattern language kind.word)
  /-- Whatever is raised while the rule of a pattern is read, is a fault of the entry. -/
  | pattern {language written : Text} {kind : Kind} {raised : Raised}
      (hname : entry.field? "name" = some (.text language)) (hkind : kind ∈ ruleKinds)
      (hwritten : pattern? entry kind = some written) (h : attempt kind written = .error raised) :
      Refuses entry (caught language kind.word raised)
  | noRules {language : Text} (hname : entry.field? "name" = some (.text language))
      (h : ∀ kind ∈ ruleKinds, pattern? entry kind = none) : Refuses entry (.noRules language)
  | badDocMarker {language : Text} (hname : entry.field? "name" = some (.text language))
      (h : ∀ marker ≠ [], (entry.field? "doc_marker").getD (.ofString "//") ≠ .text marker) :
      Refuses entry (.badDocMarker language)
  | badPlacement {language : Text} (hname : entry.field? "name" = some (.text language))
      (h : ∀ place : Placement,
        (entry.field? "doc_placement").getD (.ofString "before") ≠ .text place.word) :
      Refuses entry (.badPlacement language)
  | badDetection {language : Text} (hname : entry.field? "name" = some (.text language))
      (h : ∀ way : MethodDetection,
        (entry.field? "method_detection").getD (.ofString "indent") ≠ .text way.word) :
      Refuses entry (.badDetection language)

/-- Texts at fault are those of an entry that has the fault. -/
lemma refuses_of_texts_eq_error (hname : entry.field? "name" = some (.text language)) {key : Text}
    (hkey : key ∈ ["extensions".toList, "comment_markers".toList, "control_keywords".toList])
    (h : texts entry language key = .error fault) : Refuses entry fault := by
  obtain ⟨rfl, v, hv, hnone⟩ := exists_of_texts_eq_error h
  exact .notTexts hname hkey hv hnone

/-- An entry without a name has a fault. -/
lemma refuses_of_name_eq_error (h : name entry = .error fault) : Refuses entry fault := by
  unfold name at h
  split at h
  · split at h
    · cases h
    · rename_i hother
      cases h
      refine .noName fun language hne hfield => ?_
      obtain ⟨c, t, rfl⟩ := List.exists_cons_of_ne_nil hne
      exact hother c t (by rw [hfield]; rfl)
  · rename_i hother
    cases h
    exact .notAnObject hother

/-- A marker of documentation at fault is empty or no text. -/
lemma refuses_of_docMarker_eq_error (hname : entry.field? "name" = some (.text language))
    (h : docMarker entry language = .error fault) : Refuses entry fault := by
  unfold docMarker at h
  split at h
  · cases h
  · rename_i hother
    cases h
    refine .badDocMarker hname fun marker hne hfield => ?_
    obtain ⟨c, t, rfl⟩ := List.exists_cons_of_ne_nil hne
    exact hother c t hfield

/-- A place at fault is not the word for any. -/
lemma refuses_of_placement_eq_error (hname : entry.field? "name" = some (.text language))
    (h : placement entry language = .error fault) : Refuses entry fault := by
  unfold placement at h
  split at h
  · cases h
  · rename_i hfind
    cases h
    exact .badPlacement hname fun place =>
      ne_word_of_bind_find? hfind (by cases place <;> decide)

/-- A way at fault is not the word for any. -/
lemma refuses_of_detection_eq_error (hname : entry.field? "name" = some (.text language))
    (h : detection entry language = .error fault) : Refuses entry fault := by
  unfold detection at h
  split at h
  · cases h
  · rename_i hfind
    cases h
    exact .badDetection hname fun way => ne_word_of_bind_find? hfind (by cases way <;> decide)

/-- Rules at fault are those of an entry that has the fault. -/
lemma refuses_of_rules_eq_error (hname : entry.field? "name" = some (.text language))
    (h : rules entry language ruleKinds = .error fault) : Refuses entry fault := by
  obtain ⟨kind, hkind, hmisplaced | hraised⟩ := exists_of_rules_eq_error h
  · obtain ⟨hmisplaced, rfl⟩ := hmisplaced
    exact .notAPattern hname hkind hmisplaced
  · obtain ⟨written, raised, hwritten, hattempt, rfl⟩ := hraised
    exact .pattern hname hkind hwritten hattempt

/-! ## Profiles -/

/-- **The faults of entries.** An entry without a profile has the fault that is reported. -/
theorem refuses_of_profile_eq_error (h : profile entry = .error fault) : Refuses entry fault := by
  -- The checks one after the other: each fails for a fault of its own field, or the next is made.
  simp only [profile, bind_eq_error_iff, check_eq_error_iff] at h
  obtain hlanguage | ⟨language, hlanguage, h⟩ := h
  · exact refuses_of_name_eq_error hlanguage
  obtain ⟨hname, -⟩ := field?_of_name_eq_ok hlanguage
  obtain hextensions | ⟨extensions, hextensions, h⟩ := h
  · exact refuses_of_texts_eq_error hname (by simp) hextensions
  obtain ⟨hnone, rfl⟩ | ⟨-, h⟩ := h
  · obtain rfl := List.isEmpty_iff.mp hnone
    refine .noExtensions hname ?_
    rcases texts_eq_ok_iff.mp hextensions with ⟨hnone, -⟩ | ⟨v, hv, hholds⟩
    · exact .inl hnone
    · cases hholds
      exact .inr hv
  obtain hrules | ⟨rules, hrules, h⟩ := h
  · exact refuses_of_rules_eq_error hname hrules
  obtain ⟨hnone, rfl⟩ | ⟨-, h⟩ := h
  · obtain rfl := List.isEmpty_iff.mp hnone
    refine .noRules hname fun kind hkind => ?_
    have hfilter := List.forall₂_nil_right_iff.mp (rules_eq_ok_iff.mp hrules).2
    simpa using List.filter_eq_nil_iff.mp hfilter kind hkind
  obtain hmarker | ⟨marker, -, h⟩ := h
  · exact refuses_of_docMarker_eq_error hname hmarker
  obtain hplacement | ⟨placement, -, h⟩ := h
  · exact refuses_of_placement_eq_error hname hplacement
  obtain hdetection | ⟨detection, -, h⟩ := h
  · exact refuses_of_detection_eq_error hname hdetection
  obtain hcomments | ⟨comments, -, h⟩ := h
  · exact refuses_of_texts_eq_error hname (by simp) hcomments
  obtain hcontrol | ⟨control, -, h⟩ := h
  · exact refuses_of_texts_eq_error hname (by simp) hcontrol
  · cases h

/-- **An entry with a profile has no fault.** -/
theorem not_refuses_of_hasParts {parts : Parts} (h : HasParts entry parts) :
    ¬Refuses entry fault := by
  obtain ⟨hname, hne⟩ := field?_of_name_eq_ok h.language
  obtain ⟨hplaced, hrules⟩ := rules_eq_ok_iff.mp h.rules
  intro hrefuses
  cases hrefuses with
  | notAnObject hobject =>
    cases entry with
    | object fields => exact hobject fields rfl
    | _ => cases hname
  | noName hnone => exact hnone _ hne hname
  | @notTexts _ key v _ hkey hv hnone =>
    have htexts : ∃ language ts, texts entry language key = .ok ts := by
      simp only [List.mem_cons, List.not_mem_nil, or_false] at hkey
      rcases hkey with rfl | rfl | rfl
      · exact ⟨_, _, h.extensions⟩
      · exact ⟨_, _, h.comments⟩
      · exact ⟨_, _, h.control⟩
    obtain ⟨language, ts, hts⟩ := htexts
    exact hnone ts (holdsTexts_of_texts_eq_ok hts hv)
  | noExtensions _ hnone =>
    have hnil : texts entry parts.language "extensions" = .ok [] := by
      rw [texts_eq_ok_iff]
      rcases hnone with hnone | hnone
      · exact .inl ⟨hnone, rfl⟩
      · exact .inr ⟨_, hnone, .list []⟩
    exact h.extensions_ne_nil (Except.ok.inj (h.extensions.symm.trans hnil))
  | notAPattern _ hkind hmisplaced => exact hplaced _ hkind hmisplaced
  | @pattern _ written kind raised _ hkind hwritten hraised =>
    -- Each pattern has a rule among those of the profile, so nothing was raised for it.
    have hexists : ∀ kind ∈ ruleKinds.filter fun kind => (pattern? entry kind).isSome,
        ∃ r, IsRuleOf entry kind r :=
      ((List.forall₂_and_left _ _).mp (hrules.imp fun kind r hr => ⟨⟨r, hr⟩, hr⟩)).1
    obtain ⟨r, hr⟩ := hexists kind (List.mem_filter.mpr ⟨hkind, by rw [hwritten]; rfl⟩)
    obtain ⟨written', hwritten', hattempt⟩ := hr.attempt_eq
    rw [hwritten] at hwritten'
    cases hwritten'
    rw [hraised] at hattempt
    cases hattempt
  | noRules _ hnone =>
    have hfilter : (ruleKinds.filter fun kind => (pattern? entry kind).isSome) = [] := by
      rw [List.filter_eq_nil_iff]
      intro kind hkind
      simp [hnone kind hkind]
    rw [hfilter, List.forall₂_nil_left_iff] at hrules
    exact h.rules_ne_nil hrules
  | badDocMarker _ hnone =>
    exact hnone _ h.marker_ne_nil (field?_of_docMarker_eq_ok h.marker)
  | badPlacement _ hnone => exact hnone _ (field?_of_placement_eq_ok h.placement)
  | badDetection _ hnone => exact hnone _ (field?_of_detection_eq_ok h.detection)

/-- A profile is well formed and has the rules of an entry. -/
structure Describes (entry : Value) (p : Profile) : Prop where
  name : entry.field? "name" = some (.text p.name)
  name_ne_nil : p.name ≠ []
  extensions_ne_nil : p.extensions ≠ []
  rules_ne_nil : p.rules ≠ []
  /-- There is one rule for each pattern of the entry, and there are no others. -/
  rules : List.Forall₂ (IsRuleOf entry)
    ([.module, .type, .method, .function, .constant].filter fun kind =>
      (pattern? entry kind).isSome) p.rules
  head?_docMarkers : ∃ marker, (entry.field? "doc_marker").getD (.ofString "//") = .text marker ∧
    p.docMarkers.head? = some marker
  nodup_docMarkers : p.docMarkers.Nodup
  commentMarkers_subset : p.commentMarkers ⊆ p.docMarkers
  controlWords_ne_nil : p.controlWords ≠ []

/-- **The profile of an entry is well formed.** -/
theorem describes_of_hasParts {parts : Parts} (h : HasParts entry parts) :
    Describes entry parts.profile where
  name := (field?_of_name_eq_ok h.language).1
  name_ne_nil := (field?_of_name_eq_ok h.language).2
  extensions_ne_nil := fun hnil => h.extensions_ne_nil (List.map_eq_nil_iff.mp hnil)
  rules_ne_nil := h.rules_ne_nil
  rules := (rules_eq_ok_iff.mp h.rules).2
  head?_docMarkers := ⟨parts.marker, field?_of_docMarker_eq_ok h.marker, rfl⟩
  nodup_docMarkers := nodup_distinct _
  commentMarkers_subset := fun m hm => (mem_distinct m _).mpr (List.mem_cons_of_mem _ hm)
  controlWords_ne_nil := by
    unfold Parts.profile
    dsimp only
    split_ifs with hnone
    · decide
    · exact distinct_ne_nil (by simpa using hnone)

/-! ## Lists of entries -/

lemma profilesOf_cons (entry : Value) (entries : List Value) :
    profilesOf (entry :: entries) =
      profile entry >>= fun p => (profilesOf entries).map (p :: ·) := by
  rw [profilesOf]
  cases profile entry with
  | error f => rfl
  | ok p => rfl

/-- There is a profile for each entry, in their order. -/
lemma profilesOf_eq_ok_iff {entries : List Value} {ps : List Profile} :
    profilesOf entries = .ok ps ↔
      List.Forall₂ (fun entry p => profile entry = .ok p) entries ps := by
  induction entries generalizing ps with
  | nil => simp [profilesOf, eq_comm]
  | cons entry entries ih =>
    simp only [profilesOf_cons, bind_eq_ok_iff, map_eq_ok_iff, ih, List.forall₂_cons_left_iff]
    constructor
    · rintro ⟨p, hp, rest, hrest, rfl⟩
      exact ⟨p, rest, hp, hrest, rfl⟩
    · rintro ⟨p, rest, hp, hrest, rfl⟩
      exact ⟨p, hp, rest, hrest, rfl⟩

/-- The first entry with a fault decides. -/
lemma profilesOf_eq_error_iff {entries : List Value} :
    profilesOf entries = .error fault ↔
      ∃ good bad rest, entries = good ++ bad :: rest ∧
        (∀ entry ∈ good, ∃ p, profile entry = .ok p) ∧ profile bad = .error fault := by
  induction entries with
  | nil => simp [profilesOf]
  | cons entry entries ih =>
    simp only [profilesOf_cons, bind_eq_error_iff, map_eq_error_iff, ih]
    constructor
    · rintro (hbad | ⟨p, hp, good, bad, rest, rfl, hgood, hbad⟩)
      · exact ⟨[], entry, entries, rfl, nofun, hbad⟩
      · exact ⟨entry :: good, bad, rest, rfl, List.forall_mem_cons.mpr ⟨⟨p, hp⟩, hgood⟩, hbad⟩
    · rintro ⟨good, bad, rest, hsplit, hgood, hbad⟩
      cases good with
      | nil =>
        cases hsplit
        exact .inl hbad
      | cons first good =>
        cases hsplit
        obtain ⟨⟨p, hp⟩, hgood⟩ := List.forall_mem_cons.mp hgood
        exact .inr ⟨p, hp, good, bad, rest, rfl, hgood, hbad⟩

/-- A fault without a message is one of a pattern, and is raised while its rule is read. -/
lemma Refuses.exists_escapes (h : Refuses entry fault) (hnone : fault.message? = none) :
    ∃ kind written raised, pattern? entry kind = some written ∧
      attempt kind written = .error raised ∧ raised.Escapes := by
  cases h with
  | pattern _ _ hwritten hattempt =>
    exact ⟨_, _, _, hwritten, hattempt, (message?_caught_eq_none_iff hattempt).mp hnone⟩
  | _ => cases hnone

/-- **The outcome of an entry.** Whatever is raised while a rule is read becomes a fault of the
entry. So an entry, whatever its fields hold, either has a well-formed profile and no fault, or one
of its faults is reported; the fault has a message unless a pattern asks for too many repetitions or
is nested too deeply. A list of entries has a profile for each, in their order, or the fault of the
first that has one.

**Proof sketch.** The fields are read one after the other, and each check fails for a fault of its
own field (`refuses_of_profile_eq_error`). What a profile is put together from leaves no room for
any fault (`not_refuses_of_hasParts`). While a rule is read, everything that is raised is caught as
a fault (`ruleOf_eq_mapError_attempt`), of which few have no message
(`message?_caught_eq_none_iff`). -/
theorem describes_or_refuses :
    (∀ language kind written, ruleOf language kind written =
      (attempt kind written).mapError (caught language kind.word)) ∧
    (∀ entry,
      (∃ p, profile entry = .ok p ∧ Describes entry p ∧ ∀ fault, ¬Refuses entry fault) ∨
        ∃ fault, profile entry = .error fault ∧ Refuses entry fault ∧
          (fault.message? = none → ∃ kind written raised, pattern? entry kind = some written ∧
            attempt kind written = .error raised ∧ raised.Escapes)) ∧
    ∀ config entries, config.field? "languages" = some (.list entries) →
      (∀ ps, profiles config = .ok ps ↔
        List.Forall₂ (fun entry p => profile entry = .ok p) entries ps) ∧
      ∀ fault, profiles config = .error fault ↔
        ∃ good bad rest, entries = good ++ bad :: rest ∧
          (∀ entry ∈ good, ∃ p, profile entry = .ok p) ∧ profile bad = .error fault := by
  refine ⟨ruleOf_eq_mapError_attempt, fun entry => ?_, fun config entries hentries => ?_⟩
  · cases h : profile entry with
    | error fault =>
      have hrefuses := refuses_of_profile_eq_error h
      exact .inr ⟨fault, rfl, hrefuses, hrefuses.exists_escapes⟩
    | ok p =>
      obtain ⟨parts, hparts, rfl⟩ := profile_eq_ok_iff.mp h
      exact .inl ⟨_, rfl, describes_of_hasParts hparts, fun _ => not_refuses_of_hasParts hparts⟩
  · have hprofiles : profiles config = profilesOf entries := by
      unfold profiles sectionProfiles
      rw [hentries]
      cases entries <;> rfl
    rw [hprofiles]
    exact ⟨fun _ => profilesOf_eq_ok_iff, fun _ => profilesOf_eq_error_iff⟩

end

/-- An entry with one pattern, for functions. -/
def withFunction (written : Text) : Value :=
  .record [("name", .ofString "odd"), ("extensions", .ofString ".odd"), ("function", .text written)]

/-- A fault of the rules is a fault of the entry. -/
lemma profile_withFunction_of_rules [Host] {written : Text}
    (h : rules (withFunction written) "odd" ruleKinds = .error fault) :
    profile (withFunction written) = .error fault := by
  have hname : name (withFunction written) = .ok "odd" := rfl
  have hextensions : texts (withFunction written) "odd" "extensions" = .ok [".odd"] := rfl
  rw [profile, bind_eq_error_iff]
  refine .inr ⟨_, hname, bind_eq_error_iff.mpr (.inr ⟨_, hextensions, ?_⟩)⟩
  exact bind_eq_error_iff.mpr (.inl h)

/-- After a good entry, one whose only group is hidden behind a comment, and one with a condition
that is taken for a group. -/
theorem describes_or_refuses_of_hidden_group :
    let _ : Host := .bare
    let hidden := withFunction "(?#[)(\\w+)"
    let condition := withFunction "(?P<x>a)(?(1)b|c)"
    let config := Value.record [("languages", .list [withEmptyMarker, hidden, condition])]
    (∃ p, profile withEmptyMarker = .ok p ∧ Describes withEmptyMarker p) ∧
      attempt .function "(?#[)(\\w+)" = .error .noName ∧
      Refuses hidden (.badPattern "odd" "function") ∧
      attempt .function "(?P<x>a)(?(1)b|c)" = .error (.noPattern .badName) ∧
      Refuses condition (.badPattern "odd" "function") ∧
      profiles config = .error (.badPattern "odd" "function") := by
  intro host hidden condition config
  obtain ⟨-, houtcome, hlist⟩ := describes_or_refuses
  have hgood : ∃ p, profile withEmptyMarker = .ok p ∧ Describes withEmptyMarker p := by
    rcases houtcome withEmptyMarker with ⟨p, hp, hdescribes, -⟩ | ⟨fault, hfault, -⟩
    · exact ⟨p, hp, hdescribes⟩
    · have hok : (profile withEmptyMarker).isOk = true := by decide +kernel
      rw [hfault] at hok
      cases hok
  have hrefuses : ∀ entry fault, profile entry = .error fault → Refuses entry fault := by
    intro entry fault h
    rcases houtcome entry with ⟨p, hp, -⟩ | ⟨reported, hfault, hrefuses, -⟩
    · rw [h] at hp
      cases hp
    · rw [h] at hfault
      cases hfault
      exact hrefuses
  have hhidden : profile hidden = .error (.badPattern "odd" "function") :=
    profile_withFunction_of_rules (by decide +kernel)
  have hcondition : profile condition = .error (.badPattern "odd" "function") :=
    profile_withFunction_of_rules (by decide +kernel)
  refine ⟨hgood, by decide +kernel, hrefuses _ _ hhidden, by decide +kernel,
    hrefuses _ _ hcondition, ?_⟩
  obtain ⟨p, hp, -⟩ := hgood
  have hentries : config.field? "languages" = some (.list [withEmptyMarker, hidden, condition]) :=
    List.lookup_cons_self
  exact ((hlist config _ hentries).2 _).mpr ⟨[withEmptyMarker], hidden, [condition], rfl,
    fun entry hentry => ⟨p, List.mem_singleton.mp hentry ▸ hp⟩, hhidden⟩

end DeclIndex.Entry
