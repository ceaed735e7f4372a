import DeclIndex.Profile.Halves
import DeclIndex.Proofs.Profile.Entry
import DeclIndex.Proofs.Registry
import DeclIndex.Proofs.Value.Wide

/-!
# Names with halves of characters

An entry that is made of characters is read as it is, so that it makes no difference to read every
entry as one that may hold halves of characters. If the name of a language holds halves, its profile
goes by the empty name, which no other profile has. No look-up by a name finds it.

## Main results

* `Entry.wideSection_wide` — entries made of characters are read as they are.
* `Entry.name_eq_nil_iff_of_wideProfile` — the profiles that go by the empty name.
* `Registry.name_ne_nil_of_ofLanguage?` — the empty name is found by no other.
-/

namespace DeclIndex

/-- The fields of a value made of characters. -/
lemma Value.field?_wide (v : Value) (key : Text) :
    v.wide.field? (Text.wide key) = (v.field? key).map Value.wide := by
  cases v with
  | object fields =>
    rw [wide, field?, field?, wideFields_eq_map]
    induction fields with
    | nil => rfl
    | cons f rest ih =>
      obtain ⟨name, v⟩ := f
      rw [List.map_cons, Assoc.lookup_cons, Assoc.lookup_cons, ih]
      simp only [Text.wide_injective.eq_iff]
      split <;> rfl
  | _ => rfl

namespace Entry

/-! ## Entries made of characters -/

/-- An entry made of characters stays as it is. -/
lemma plain_wide (entry : Value) : plain entry.wide = entry := by
  unfold plain
  rw [Value.narrow?_wide]
  exact Option.getD_some

/-- An entry made of characters holds no halves. -/
lemma hasHalves_wide (key : Text) (entry : Value) :
    hasHalves (Text.wide key) entry.wide = false := by
  rw [hasHalves, Value.field?_wide]
  cases entry.field? key with
  | none => rfl
  | some v => simp [Value.narrow?_wide]

section

variable [Host]

/-- An entry made of characters is read as it is. -/
lemma wideProfile_wide (entry : Value) : wideProfile entry.wide = profile entry := by
  have hhalves : hasHalves "name" entry.wide = false := hasHalves_wide "name" entry
  rw [wideProfile, plain_wide, hhalves]
  cases profile entry <;> rfl

/-- Entries made of characters are read as they are. -/
lemma wideProfilesOf_wide (entries : List Value) :
    wideProfilesOf (entries.map Value.wide) = profilesOf entries := by
  induction entries with
  | nil => rfl
  | cons entry rest ih =>
    cases hentry : profile entry with
    | error fault => simp only [List.map_cons, wideProfilesOf, profilesOf, wideProfile_wide, hentry]
    | ok p => simp only [List.map_cons, wideProfilesOf, profilesOf, wideProfile_wide, hentry, ih]

/-- **Entries made of characters are read as they are**, whatever the section that holds them. -/
theorem wideSection_wide (languages : Value) :
    wideSection languages.wide = sectionProfiles languages := by
  cases languages with
  | list entries =>
    rw [Value.wide, Value.wideItems_eq_map, wideSection, sectionProfiles, ← wideProfilesOf_wide]
    cases entries <;> rfl
  | text t => cases t <;> rfl
  | object fields => cases fields <;> rfl
  | _ => rfl

/-! ## Languages without a name -/

omit [Host] in
/-- The name that an entry is given is not empty. -/
lemma ne_nil_of_name_eq_ok {entry : Value} {language : Text} (h : name entry = .ok language) :
    language ≠ [] := by
  unfold name at h
  split at h
  · split at h
    · cases h
      exact List.cons_ne_nil _ _
    · cases h
  · cases h

/-- **A language goes by the empty name** exactly if its name holds halves of characters. -/
theorem name_eq_nil_iff_of_wideProfile {entry : Value CodePoint} {p : Profile}
    (h : wideProfile entry = .ok p) : p.name = [] ↔ hasHalves "name" entry = true := by
  obtain ⟨q, hq, rfl⟩ := map_eq_ok_iff.mp h
  obtain ⟨parts, hparts, rfl⟩ := profile_eq_ok_iff.mp hq
  have hname : parts.profile.name ≠ [] := ne_nil_of_name_eq_ok hparts.language
  cases hhalves : hasHalves "name" entry with
  | true => exact iff_of_true rfl rfl
  | false => exact iff_of_false hname Bool.false_ne_true

end

end Entry

/-- **The empty name is found by no other**: a look-up by a name gives a profile with a name.

**Proof sketch.** The name of the profile agrees in lower case with the one that is looked for
(`ofLanguage?_registerAll`), and only the empty text is empty in lower case. -/
theorem Registry.name_ne_nil_of_ofLanguage? {ps : List Profile} {name : Text} {p : Profile}
    (hname : name ≠ []) (h : (empty.registerAll ps).ofLanguage? name = some p) : p.name ≠ [] := by
  have hnamed : ∀ {n : Text} {q : Profile}, named? ps n = some q → q.name = n := by
    intro n q hq
    have htest := List.find?_some hq
    exact eq_of_beq htest
  have hlower : Text.lower name ≠ [] := mt Text.lower_eq_nil_iff.mp hname
  rw [ofLanguage?_registerAll, Option.or_eq_some_iff, Option.or_eq_some_iff] at h
  obtain (hexact | ⟨-, hlow⟩) | ⟨-, hfirst⟩ := h
  · rwa [hnamed hexact]
  · rwa [hnamed hlow]
  · obtain ⟨q, hq, hp⟩ := Option.bind_eq_some_iff.mp hfirst
    have htest := List.find?_some hq
    have hagree : Text.lower q.name = Text.lower name := eq_of_beq htest
    rw [hnamed hp]
    intro hnil
    rw [hnil] at hagree
    exact hlower hagree.symm

end DeclIndex
