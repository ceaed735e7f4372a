import DeclIndex.Config
import DeclIndex.Proofs.Text.Utf8
import DeclIndex.Proofs.Value.JsonLimits
import DeclIndex.Proofs.Value.JsonPrinter

/-!
# Configurations that are merged

A configuration that is read from a file is laid over the default one, section by section. Nothing
that the file says is lost, and a configuration that was merged is merged to itself, so that it can
be written to a file and read back. A file is not loaded if an integer in it has too many digits or
something lies too deep in lists and objects.

## Main definitions

* `Config.laid`, `Config.settled` — a value laid over another one, and over a default section.
* `Config.merged` — the default configuration with sections laid over it.
* `Config.Merges` — what sections laid over the default ones give.
* `Config.HoldsJson` — a file holds a text of JSON.

## Main results

* `Config.lookup_merged` — the sections of a merged configuration.
* `Config.merged_merged` — a merged configuration is merged to itself.
* `Config.load_merges_of_read` — what an object that is read from a file gives.
* `Config.load_merges` — **what a file of JSON gives**, and that it can be read back.
-/

namespace DeclIndex.Config

variable {u : List (WideText × Value CodePoint)} {k : WideText}

/-! ## Sections that are laid over others -/

/-- A value that is laid over another one: an object field by field over an object, any other value
in the place of the old one. -/
def laid : Value CodePoint → Value CodePoint → Value CodePoint
  | .object under, .object upper => .object (Assoc.overlay under upper)
  | _, v => v

/-- A section that is laid over another one is written in its place. -/
lemma lay_eq (c : Config) (name : WideText) (v : Value CodePoint) :
    c.lay name v = ⟨Assoc.set name (laid (c.get name) v) c.sections⟩ := by
  unfold lay
  split
  · rename_i hunder
    rw [hunder, laid]
  · rename_i hobjects
    rw [laid]
    exact hobjects

/-- What is laid over a value once more stays as it is. -/
lemma laid_laid {under : Value CodePoint} (hunder : Json.Writable under) (v : Value CodePoint) :
    laid under (laid under v) = laid under v := by
  cases hunder with
  | object hkeys h =>
    cases v with
    | object upper => rw [laid, laid, Assoc.overlay_overlay hkeys]
    | _ => rfl
  | _ => rfl

/-- **Sections with different names** are laid over others each in its place. -/
lemma sections_foldl_lay (hu : (u.map (·.1)).Nodup) :
    ∀ c : Config, (u.foldl (fun c s => c.lay s.1 s.2) c).sections =
      Assoc.overlay c.sections (u.map fun s => (s.1, laid (c.get s.1) s.2)) := by
  induction u with
  | nil => exact fun c => rfl
  | cons s u ih =>
    intro c
    obtain ⟨name, v⟩ := s
    obtain ⟨hname, hu⟩ := List.nodup_cons.mp hu
    have hothers : u.map (fun s => (s.1, laid ((c.lay name v).get s.1) s.2)) =
        u.map (fun s => (s.1, laid (c.get s.1) s.2)) := by
      refine List.map_congr_left fun s hs => ?_
      have hne : s.1 ≠ name := by
        rintro rfl
        exact hname (List.mem_map.mpr ⟨s, hs, rfl⟩)
      rw [get, lay_eq, Assoc.lookup_set, if_neg hne, get]
    rw [List.foldl_cons, ih hu, hothers, lay_eq]
    rfl

/-- What is looked up after sections with different names were laid over others. -/
lemma lookup_foldl_lay (hu : (u.map (·.1)).Nodup) (c : Config)
    (k : WideText) :
    (u.foldl (fun c s => c.lay s.1 s.2) c).sections.lookup k =
      ((u.lookup k).map (laid (c.get k))).or (c.sections.lookup k) := by
  have hlaid : ((u.map fun s => (s.1, laid (c.get s.1) s.2)).map (·.1)).Nodup := by
    rwa [List.map_map]
  rw [sections_foldl_lay hu, Assoc.lookup_overlay, Assoc.lookup_reverse hlaid]
  congr 1
  exact Assoc.lookup_map_values (fun name v => laid (c.get name) v) k u

/-! ## Sections that are filled -/

/-- A value, with an empty list in the place of null. -/
def orEmpty : Value CodePoint → Value CodePoint
  | .null => .list []
  | v => v

/-- A section that is filled is an empty list in the place of null. -/
lemma lookup_fill_self (c : Config) (name : WideText) :
    (c.fill name).sections.lookup name = (c.sections.lookup name).map orEmpty := by
  unfold fill
  dsimp only
  split
  · rename_i hnull
    rw [Assoc.lookup_set, if_pos rfl, hnull]
    rfl
  · rename_i hne
    cases hlookup : c.sections.lookup name with
    | none => rfl
    | some v =>
      cases v with
      | null => exact absurd hlookup hne
      | _ => rfl

/-- The other sections stay when one is filled. -/
lemma lookup_fill_of_ne (c : Config) {name k : WideText} (h : k ≠ name) :
    (c.fill name).sections.lookup k = c.sections.lookup k := by
  unfold fill
  dsimp only
  split
  · rw [Assoc.lookup_set, if_neg h]
  · rfl

/-- The names of the sections stay when one is filled. -/
lemma keys_fill (c : Config) (name : WideText) :
    (c.fill name).sections.map (·.1) = c.sections.map (·.1) := by
  unfold fill
  dsimp only
  split
  · rename_i hnull
    rw [Assoc.keys_set, if_pos (Assoc.mem_keys_iff.mpr ⟨_, hnull⟩)]
  · rfl

/-! ## The default sections -/

/-- The names of the sections that are lists by default. -/
def lists : List WideText :=
  ["exclude", "languages"]

/-- The fields of the default settings of the scan. -/
def usualScan : List (WideText × Value CodePoint) :=
  [("max_file_size", .int Scanner.usualLimit), ("workers", .int 1)]

lemma mem_lists : k ∈ lists ↔ k = "exclude" ∨ k = "languages" := by
  rw [lists, List.mem_cons, List.mem_singleton]

/-- The default sections. -/
lemma lookup_default (k : WideText) :
    default.sections.lookup k =
      if k ∈ lists then some (.list [])
      else if k = "scan" then some (.object usualScan) else none := by
  simp only [default, Assoc.lookup_cons, List.lookup_nil, mem_lists]
  by_cases hexclude : k = "exclude"
  · rw [if_pos hexclude, if_pos (.inl hexclude)]
  · by_cases hlanguages : k = "languages"
    · rw [if_neg hexclude, if_pos hlanguages, if_pos (.inr hlanguages)]
    · rw [if_neg hexclude, if_neg hlanguages, if_neg (not_or.mpr ⟨hexclude, hlanguages⟩)]
      rfl

/-- The sections that are lists by default. -/
lemma get_default_of_mem (hk : k ∈ lists) : default.get k = .list [] := by
  rw [get, lookup_default, if_pos hk]
  rfl

/-- The default settings of the scan. -/
lemma get_default_scan : default.get "scan" = .object usualScan := by
  rw [get, lookup_default, if_neg (by decide), if_pos rfl]
  rfl

/-- All other sections are absent by default. -/
lemma get_default_of_ne (hk : k ∉ lists) (hscan : k ≠ "scan") :
    default.get k = .null := by
  rw [get, lookup_default, if_neg hk, if_neg hscan]
  rfl

/-- The default sections can be written. -/
lemma writable_default : Json.Writable default.toValue := by
  have hscan : Json.Writable (.object usualScan) := by
    refine .object (show (usualScan.map (·.1)).Nodup by decide +kernel) ?_ ?_
    · simp [usualScan, Json.isSpelled_wide]
    · simp [usualScan, Json.Writable.int]
  refine .object (show (default.sections.map (·.1)).Nodup by decide +kernel) ?_ ?_
  · simp [default, Json.isSpelled_wide]
  · simp only [default, List.forall_mem_cons]
    exact ⟨.list (by simp), .list (by simp), hscan, by simp⟩

/-- A section of a configuration that can be written can be written, also if there is none. -/
lemma writable_get {c : Config} (hc : Json.Writable c.toValue) (k : WideText) :
    Json.Writable (c.get k) := by
  rw [get]
  cases hlookup : c.sections.lookup k with
  | none => exact .null
  | some v => exact hc.of_mem (k, v) ((Assoc.mem_iff_lookup hc.nodup_keys k v).mpr hlookup)

/-! ## Merged configurations -/

/-- The default configuration with sections laid over it, and filled. -/
def merged (u : List (WideText × Value CodePoint)) : Config :=
  ((u.foldl (fun c s => c.lay s.1 s.2) default).fill "exclude").fill "languages"

/-- A value that is laid over the default section of its name. If that is a list, an empty list
takes the place of null. -/
def settled (name : WideText) (v : Value CodePoint) : Value CodePoint :=
  if lists.contains name then orEmpty v else laid (default.get name) v

/-- A value that takes the place of a list. -/
lemma settled_of_mem (hk : k ∈ lists) (v : Value CodePoint) : settled k v = orEmpty v :=
  if_pos (List.contains_iff_mem.mpr hk)

/-- A value that takes the place of no list. -/
lemma settled_of_not_mem (hk : k ∉ lists) (v : Value CodePoint) :
    settled k v = laid (default.get k) v :=
  if_neg (List.contains_iff_mem.not.mpr hk)

/-- Where the default section is a list, filling comes after laying a section over it. -/
lemma map_orEmpty_lookup (hk : k ∈ lists) (o : Option (Value CodePoint)) :
    ((o.map (laid (default.get k))).or (default.sections.lookup k)).map orEmpty =
      (o.map (settled k)).or (default.sections.lookup k) := by
  rw [get_default_of_mem hk, lookup_default, if_pos hk]
  cases o with
  | none => rfl
  | some v =>
    rw [Option.map_some, Option.map_some, Option.some_or, Option.some_or, settled_of_mem hk]
    rfl

/-- **The sections of a merged configuration**: those that were laid over the default ones, and the
other default ones. -/
lemma lookup_merged (hu : (u.map (·.1)).Nodup) (k : WideText) :
    (merged u).sections.lookup k =
      ((u.lookup k).map (settled k)).or (default.sections.lookup k) := by
  have hnames : ("exclude" : WideText) ≠ "languages" := by decide
  rw [merged]
  rcases eq_or_ne k "exclude" with rfl | hexclude
  · rw [lookup_fill_of_ne _ hnames, lookup_fill_self, lookup_foldl_lay hu,
      map_orEmpty_lookup (mem_lists.mpr (.inl rfl))]
  · rcases eq_or_ne k "languages" with rfl | hlanguages
    · rw [lookup_fill_self, lookup_fill_of_ne _ hnames.symm, lookup_foldl_lay hu,
        map_orEmpty_lookup (mem_lists.mpr (.inr rfl))]
    · have hsettled : settled k = laid (default.get k) := by
        funext v
        exact settled_of_not_mem (mem_lists.not.mpr (not_or.mpr ⟨hexclude, hlanguages⟩)) v
      rw [lookup_fill_of_ne _ hlanguages, lookup_fill_of_ne _ hexclude, lookup_foldl_lay hu,
        hsettled]

/-- The names of the sections of a merged configuration. -/
lemma keys_merged (hu : (u.map (·.1)).Nodup) :
    (merged u).sections.map (·.1) = (Assoc.overlay default.sections
      (u.map fun s => (s.1, laid (default.get s.1) s.2))).map (·.1) := by
  rw [merged, keys_fill, keys_fill, sections_foldl_lay hu]

/-- The names of the sections of a merged configuration are different. -/
lemma nodup_keys_merged (hu : (u.map (·.1)).Nodup) :
    ((merged u).sections.map (·.1)).Nodup := by
  rw [keys_merged hu]
  exact Assoc.nodup_keys_overlay _ writable_default.nodup_keys

/-- What was settled stays as it is when it is settled once more. -/
lemma settled_settled (k : WideText) (v : Value CodePoint) :
    settled k (settled k v) = settled k v := by
  by_cases hk : k ∈ lists
  · rw [settled_of_mem hk, settled_of_mem hk]
    cases v <;> rfl
  · rw [settled_of_not_mem hk, settled_of_not_mem hk, laid_laid (writable_get writable_default k)]

/-- The default sections stay as they are when they are settled. -/
lemma settled_default (k : WideText) : settled k (default.get k) = default.get k := by
  by_cases hk : k ∈ lists
  · rw [settled_of_mem hk, get_default_of_mem hk]
    rfl
  · rw [settled_of_not_mem hk]
    cases hvalue : default.get k with
    | object fields =>
      have hwritable := hvalue ▸ writable_get writable_default k
      rw [laid, Assoc.overlay_of_prefix hwritable.nodup_keys List.prefix_rfl]
    | _ => rfl

/-- The sections of a merged configuration stay as they are when they are settled. -/
lemma settled_of_lookup_merged (hu : (u.map (·.1)).Nodup) {v : Value CodePoint}
    (h : (merged u).sections.lookup k = some v) : settled k v = v := by
  rw [lookup_merged hu] at h
  cases hlookup : u.lookup k with
  | some w =>
    rw [hlookup] at h
    obtain rfl : settled k w = v := Option.some.inj h
    exact settled_settled k w
  | none =>
    rw [hlookup, Option.map_none, Option.none_or] at h
    have hget : default.get k = v := by rw [get, h, Option.getD_some]
    rw [← hget, settled_default]

/-- **A merged configuration is merged to itself.**

**Proof sketch.** The default sections come first in a merged configuration, so that laying it over
them once more gives the same names in the same order. What is looked up under a name is settled
already. -/
theorem merged_merged (hu : (u.map (·.1)).Nodup) :
    merged (merged u).sections = merged u := by
  have hnodup := nodup_keys_merged hu
  have hlaid : ((merged u).sections.map fun s => (s.1, laid (default.get s.1) s.2)).map (·.1) =
      (merged u).sections.map (·.1) := by
    rw [List.map_map]
    rfl
  have hkeys : (merged (merged u).sections).sections.map (·.1) =
      (merged u).sections.map (·.1) := by
    rw [keys_merged hnodup, Assoc.overlay_of_prefix (hlaid ▸ hnodup) ?_, hlaid]
    rw [hlaid, keys_merged hu]
    exact Assoc.keys_prefix_overlay _ _
  have hlookup : ∀ k, (merged (merged u).sections).sections.lookup k =
      (merged u).sections.lookup k := by
    intro k
    rw [lookup_merged hnodup]
    cases h : (merged u).sections.lookup k with
    | some v => rw [Option.map_some, settled_of_lookup_merged hu h, Option.some_or]
    | none =>
      rw [lookup_merged hu, Option.or_eq_none_iff] at h
      rw [Option.map_none, Option.none_or, h.2]
  exact congrArg Config.mk (Assoc.eq_of_lookup hkeys (hkeys ▸ hnodup) hlookup)

/-! ## Merged configurations that are written -/

/-- A section of a merged configuration was laid over the default one of its name, or is the default
one. -/
lemma eq_settled_or_get_of_mem (hu : (u.map (·.1)).Nodup) {s : WideText × Value CodePoint}
    (hs : s ∈ (merged u).sections) :
    (∃ v, (s.1, v) ∈ u ∧ s.2 = settled s.1 v) ∨ s.2 = default.get s.1 := by
  have hlookup := (Assoc.mem_iff_lookup (nodup_keys_merged hu) s.1 s.2).mp hs
  rw [lookup_merged hu] at hlookup
  cases hvalue : u.lookup s.1 with
  | some v =>
    rw [hvalue] at hlookup
    exact .inl ⟨v, Assoc.mem_of_lookup hvalue, (Option.some.inj hlookup).symm⟩
  | none =>
    rw [hvalue, Option.map_none, Option.none_or] at hlookup
    exact .inr (by rw [get, hlookup, Option.getD_some])

/-- A value that was settled can be written. -/
lemma writable_settled {v : Value CodePoint} (hv : Json.Writable v) (k : WideText) :
    Json.Writable (settled k v) := by
  by_cases hk : k ∈ lists
  · rw [settled_of_mem hk]
    unfold orEmpty
    split
    · exact .list (by simp)
    · exact hv
  · have hunder := writable_get writable_default k
    rw [settled_of_not_mem hk]
    unfold laid
    split
    · rename_i under upper heq
      rw [heq] at hunder
      refine .object (Assoc.nodup_keys_overlay _ hunder.nodup_keys) (fun f hf => ?_) fun f hf => ?_
      · exact (Assoc.mem_or_mem_of_mem_overlay hf).elim (hunder.isSpelled f) (hv.isSpelled f)
      · exact (Assoc.mem_or_mem_of_mem_overlay hf).elim (hunder.of_mem f) (hv.of_mem f)
    · exact hv

/-- The name of a section of a merged configuration. -/
lemma mem_keys_merged (hu : (u.map (·.1)).Nodup)
    (k : WideText) :
    k ∈ (merged u).sections.map (·.1) ↔ k ∈ default.sections.map (·.1) ∨ k ∈ u.map (·.1) := by
  rw [keys_merged hu, Assoc.mem_keys_overlay, List.map_map]
  rfl

/-- A merged configuration can be written, if what was laid over the default one can. -/
lemma writable_merged (hu : Json.Writable (.object u)) :
    Json.Writable (merged u).toValue := by
  have hkeys := hu.nodup_keys
  refine .object (nodup_keys_merged hkeys) (fun s hs => ?_) fun s hs => ?_
  · rcases (mem_keys_merged hkeys s.1).mp (List.mem_map.mpr ⟨s, hs, rfl⟩) with hname | hname <;>
      obtain ⟨s', hs', hname⟩ := List.mem_map.mp hname <;> rw [← hname]
    exacts [writable_default.isSpelled s' hs', hu.isSpelled s' hs']
  · rcases eq_settled_or_get_of_mem hkeys hs with ⟨v, hv, hsettled⟩ | hget
    · rw [hsettled]
      exact writable_settled (hu.of_mem _ hv) s.1
    · rw [hget]
      exact writable_get writable_default s.1

/-- Whole numbers of seven digits keep within the limits. -/
lemma fits_int {n : Int} (h : n.natAbs < 10 ^ 7) (levels : Nat) :
    Json.Fits Text.mostDigits levels (.int n : Value CodePoint) := by
  have hdigits : 7 ≤ Text.mostDigits := by
    unfold Text.mostDigits
    decide
  exact .int (Nat.lt_of_lt_of_le h (Nat.pow_le_pow_right (by decide) hdigits))

/-- The default sections keep within the limits. -/
lemma fits_get_default (k : WideText) (levels : Nat) :
    Json.Fits Text.mostDigits (levels + 1) (default.get k) := by
  rw [get, lookup_default]
  split
  · exact .list (by simp)
  · split
    · refine .object ?_
      rw [usualScan, List.forall_mem_cons, List.forall_mem_singleton]
      exact ⟨fits_int (by decide) levels, fits_int (by decide) levels⟩
    · exact .null

/-- A value that was settled keeps within the limits. -/
lemma fits_settled {levels : Nat} {v : Value CodePoint}
    (hv : Json.Fits Text.mostDigits (levels + 1) v) (k : WideText) :
    Json.Fits Text.mostDigits (levels + 1) (settled k v) := by
  by_cases hk : k ∈ lists
  · rw [settled_of_mem hk]
    unfold orEmpty
    split
    · exact .list (by simp)
    · exact hv
  · have hunder := fits_get_default k levels
    rw [settled_of_not_mem hk]
    unfold laid
    split
    · rename_i under upper heq
      rw [heq] at hunder
      cases hunder with
      | object hunder =>
        cases hv with
        | object hv =>
          exact .object fun f hf => (Assoc.mem_or_mem_of_mem_overlay hf).elim (hunder f) (hv f)
    · exact hv

/-- A merged configuration keeps within the limits, if what was laid over the default one does. -/
lemma fits_merged (hu : (u.map (·.1)).Nodup) {levels : Nat}
    (hlevels : 2 ≤ levels) (h : Json.Fits Text.mostDigits levels (.object u)) :
    Json.Fits Text.mostDigits levels (merged u).toValue := by
  obtain ⟨levels, rfl⟩ := Nat.exists_eq_add_of_le' hlevels
  cases h with
  | object h =>
    refine .object fun s hs => ?_
    rcases eq_settled_or_get_of_mem hu hs with ⟨v, hv, hsettled⟩ | hget
    · rw [hsettled]
      exact fits_settled (h _ hv) s.1
    · rw [hget]
      exact fits_get_default s.1 levels

/-! ## Configurations that are read -/

/-- The patterns for what is left out are a list, or there are none. -/
def ListsPatterns (u : List (WideText × Value CodePoint)) : Prop :=
  ∀ v, u.lookup ("exclude" : WideText) = some v → v = .null ∨ ∃ vs, v = .list vs

/-- What sections laid over the default ones give. -/
structure Merges (u : List (WideText × Value CodePoint)) (c : Config) : Prop where
  /-- No name is given twice. -/
  nodup : (c.sections.map (·.1)).Nodup
  /-- There are the default sections and those laid over them. -/
  names : ∀ k, k ∈ c.sections.map (·.1) ↔ k ∈ default.sections.map (·.1) ∨ k ∈ u.map (·.1)
  /-- Settings of the scan are laid over the default ones field by field. -/
  scan : ∀ fields, u.lookup ("scan" : WideText) = some (.object fields) →
    ∃ both, c.sections.lookup ("scan" : WideText) = some (.object both) ∧ (both.map (·.1)).Nodup ∧
      ∀ k, both.lookup k = (fields.lookup k).or (usualScan.lookup k)
  /-- Without any, the default ones are kept. -/
  usual : u.lookup ("scan" : WideText) = none →
    c.sections.lookup ("scan" : WideText) = some (.object usualScan)
  /-- Lists that are null or absent are empty. -/
  empty : ∀ k ∈ lists, u.lookup k = none ∨ u.lookup k = some .null →
    c.sections.lookup k = some (.list [])
  /-- All else is kept as it is. -/
  kept : ∀ k v, u.lookup k = some v → (k ∈ lists → v ≠ .null) →
    (k = "scan" → ∀ fields, v ≠ .object fields) → c.sections.lookup k = some v

/-- A value stays as it is when it is settled, unless it takes the place of a list and is null or it
is laid over the default settings of the scan. -/
lemma settled_eq_self {v : Value CodePoint} (hnull : k ∈ lists → v ≠ .null)
    (hobject : k = "scan" → ∀ fields, v ≠ .object fields) : settled k v = v := by
  by_cases hk : k ∈ lists
  · rw [settled_of_mem hk]
    cases v with
    | null => exact absurd rfl (hnull hk)
    | _ => rfl
  · rw [settled_of_not_mem hk]
    by_cases hscan : k = "scan"
    · rw [hscan, get_default_scan]
      cases v with
      | object fields => exact absurd rfl (hobject hscan fields)
      | _ => rfl
    · rw [get_default_of_ne hk hscan]
      rfl

/-- A merged configuration is the default one with all that is laid over it. -/
lemma merges_merged (hu : Json.Writable (.object u)) :
    Merges u (merged u) := by
  have hkeys := hu.nodup_keys
  have hscan : ("scan" : WideText) ∉ lists := by decide
  refine ⟨nodup_keys_merged hkeys, fun k => ?_, fun fields hfields => ?_, fun hnone => ?_,
    fun k hk hempty => ?_, fun k v hv hnull hobject => ?_⟩
  · exact mem_keys_merged hkeys k
  · have hmem : (("scan" : WideText), Value.object fields) ∈ u := Assoc.mem_of_lookup hfields
    have hfields' := (hu.of_mem _ hmem).nodup_keys
    refine ⟨Assoc.overlay usualScan fields, ?_, Assoc.nodup_keys_overlay _ (by decide +kernel),
      fun k => ?_⟩
    · rw [lookup_merged hkeys, hfields, Option.map_some, Option.some_or,
        settled_of_not_mem hscan, get_default_scan, laid]
    · rw [Assoc.lookup_overlay, Assoc.lookup_reverse hfields']
  · rw [lookup_merged hkeys, hnone, lookup_default, if_neg hscan, if_pos rfl]
    rfl
  · rw [lookup_merged hkeys, lookup_default, if_pos hk]
    rcases hempty with hnone | hnull
    · rw [hnone]
      rfl
    · rw [hnull, Option.map_some, settled_of_mem hk]
      rfl
  · rw [lookup_merged hkeys, hv, Option.map_some, Option.some_or, settled_eq_self hnull hobject]

/-- A file of JSON holds a text. -/
structure HoldsJson (d : Directory) (path : Path) (t : Text) : Prop where
  suffix : Text.lower path.suffix = ".json".toList
  content : ∃ bytes, d.contentAt path = .ok bytes ∧ Utf8.decode bytes = .ok t

/-- A merged configuration lists the patterns for what is left out exactly if they were listed. -/
lemma listsPatterns_iff (hu : (u.map (·.1)).Nodup) :
    ListsPatterns u ↔ ∃ vs, (merged u).get "exclude" = .list vs := by
  have hexclude : ("exclude" : WideText) ∈ lists := by decide
  rw [ListsPatterns, get, lookup_merged hu]
  cases u.lookup ("exclude" : WideText) with
  | none =>
    rw [Option.map_none, Option.none_or, lookup_default, if_pos hexclude]
    exact ⟨fun _ => ⟨[], rfl⟩, fun _ v hv => by cases hv⟩
  | some v =>
    rw [Option.map_some, Option.some_or, Option.getD_some, settled_of_mem hexclude]
    cases v with
    | null => exact ⟨fun _ => ⟨[], rfl⟩, fun _ w hw => .inl (Option.some.inj hw).symm⟩
    | list vs => exact ⟨fun _ => ⟨vs, rfl⟩, fun _ w hw => .inr ⟨vs, (Option.some.inj hw).symm⟩⟩
    | _ => simp [orEmpty]

/-- Sections are laid over the default ones, unless what is left out is no list. -/
lemma ofValue_object (path : Path) (u : List (WideText × Value CodePoint)) :
    ofValue path (.object u) =
      match (merged u).get "exclude" with
      | .list _ => .ok (merged u)
      | _ => .error .badExclude := by
  cases u <;> rfl

section

variable [Host] {d : Directory} {path : Path} {t : Text}

/-- A file of JSON is loaded as the value that is read from it. -/
lemma load_eq_bind (h : HoldsJson d path t) :
    load d path =
      (Json.read Host.levels (Text.unifyBreaks t)).mapError (ofJsonFault path) >>=
        ofValue path := by
  obtain ⟨bytes, hbytes, ht⟩ := h.content
  have hparse : ∀ t, parse path t = (Json.read Host.levels t).mapError (ofJsonFault path) :=
    fun t => if_pos (by rw [h.suffix]; rfl)
  simp only [load, hbytes, ht, Except.mapError, bind, Except.bind, hparse]

/-- An object that is read from a file of JSON is laid over the default configuration, unless what
is left out is no list. -/
lemma load_of_read (h : HoldsJson d path t)
    (hu : Json.read Host.levels (Text.unifyBreaks t) = .ok (.object u)) :
    load d path =
      match (merged u).get "exclude" with
      | .list _ => .ok (merged u)
      | _ => .error .badExclude := by
  rw [load_eq_bind h, hu]
  exact ofValue_object path u

/-- **What an object in a file of JSON gives**, even if the text gives a key twice. If the patterns
for what is left out are a list, null or absent, its sections are laid over the default ones:
nothing that it says is lost, and nothing else is added. The configuration can be written in JSON,
and every file of JSON that writes it gives it again. Any other object is refused.

**Proof sketch.** What is read from JSON has distinct keys and keeps within the limits of the reader
(`Json.writable_of_read`). So its sections are laid over the default ones each in its place
(`lookup_merged`), and the result can be written and keeps within the limits as well. A merged
configuration is merged to itself (`merged_merged`), and every text that writes it is read as what
it writes (`Json.read_of_isTextOf`), whatever its line ends (`Json.IsTextOf.unifyBreaks`). -/
theorem load_merges_of_read (h : HoldsJson d path t)
    (hu : Json.read Host.levels (Text.unifyBreaks t) = .ok (.object u)) :
    (ListsPatterns u → ∃ c, load d path = .ok c ∧ Merges u c ∧
      (∃ t', Json.print? c.toValue = some t' ∧ Json.IsTextOf c.toValue t') ∧
      ∀ d' path' t', HoldsJson d' path' t' → Json.IsTextOf c.toValue t' →
        load d' path' = .ok c) ∧
    (¬ListsPatterns u → load d path = .error .badExclude) := by
  obtain ⟨hwritable, hfits⟩ := Json.writable_of_read hu
  have hkeys := hwritable.nodup_keys
  have hload := load_of_read h hu
  constructor
  · intro hlists
    obtain ⟨vs, hvs⟩ := (listsPatterns_iff hkeys).mp hlists
    rw [hvs] at hload
    have hmerged := writable_merged hwritable
    have hwithin := fits_merged hkeys Host.two_le_levels hfits
    have hprint : Json.print? (merged u).toValue = some (Json.indented 0 (merged u).toValue) :=
      if_pos (Json.isPrintable_iff.mpr ⟨_, hwithin⟩)
    refine ⟨merged u, hload, merges_merged hwritable,
      ⟨_, hprint, Json.isTextOf_indented hmerged 0⟩, ?_⟩
    intro d' path' t' h' ht'
    rw [load_of_read h' (Json.read_of_isTextOf ht'.unifyBreaks hwithin), merged_merged hkeys, hvs]
  · intro hlists
    rw [hload]
    split
    · rename_i vs hvs
      exact absurd ((listsPatterns_iff hkeys).mpr ⟨vs, hvs⟩) hlists
    · rfl

/-- An object beyond the limits is not loaded. -/
lemma load_of_not_fits (h : HoldsJson d path t) (hu : Json.IsTextOf (.object u) t)
    (hfits : ¬Json.Fits Text.mostDigits Host.levels (.object u)) :
    load d path = .error .numberTooLong ∨ load d path = .error .nestedTooDeep := by
  rw [load_eq_bind h]
  rcases Json.read_of_isTextOf_of_not_fits hu.unifyBreaks hfits with hread | hread <;> rw [hread]
  exacts [.inl rfl, .inr rfl]

/-- **What a file of JSON gives.** An object that keeps within the limits of the reader, in which
the patterns for what is left out are a list, null or absent, gives the default configuration with
its sections laid over: nothing that it says is lost, and nothing else is added. The configuration
can be written in JSON, and every file of JSON that writes it gives it again. Any other object
within the limits is refused. Beyond the limits there is no configuration, nor a message that says
why.

**Proof sketch.** A text of JSON is read as the object that it writes, if that keeps within the
limits (`Json.read_of_isTextOf`), and then `load_merges_of_read` applies; otherwise the reader
breaks off (`Json.read_of_isTextOf_of_not_fits`). -/
theorem load_merges (h : HoldsJson d path t) (hu : Json.IsTextOf (.object u) t) :
    (Json.Fits Text.mostDigits Host.levels (.object u) →
      (ListsPatterns u → ∃ c, load d path = .ok c ∧ Merges u c ∧
        (∃ t', Json.print? c.toValue = some t' ∧ Json.IsTextOf c.toValue t') ∧
        ∀ d' path' t', HoldsJson d' path' t' → Json.IsTextOf c.toValue t' →
          load d' path' = .ok c) ∧
      (¬ListsPatterns u → load d path = .error .badExclude)) ∧
    (¬Json.Fits Text.mostDigits Host.levels (.object u) →
      load d path = .error .numberTooLong ∨ load d path = .error .nestedTooDeep) := by
  exact ⟨fun hfits => load_merges_of_read h (Json.read_of_isTextOf hu.unifyBreaks hfits),
    load_of_not_fits h hu⟩

end

/-! ## Files that write an object -/

/-- A directory with one file, in which a value is written in JSON. -/
def directoryOf (v : Value CodePoint) : Directory :=
  .file "c.json" (.readable (Utf8.encode (Json.indented 0 v))) .empty

/-- The file holds a text of JSON. -/
lemma holdsJson_directoryOf (v : Value CodePoint) :
    HoldsJson (directoryOf v) (Path.ofText "c.json") (Json.indented 0 v) :=
  ⟨by decide +kernel, _, rfl, Utf8.decode_encode _⟩

/-- Sections that leave null what is left out, set the number of workers, and say one thing more. -/
def ownSections : List (WideText × Value CodePoint) :=
  [("exclude", .null), ("scan", .object [("workers", .int 4)]), ("title", .text "Outline")]

/-- The sections are merged with the default ones. What is then written gives them again. -/
theorem load_merges_own :
    let _ : Host := .bare
    ListsPatterns ownSections ∧ Json.Fits Text.mostDigits Host.levels (.object ownSections) ∧
      ∃ c, load (directoryOf (.object ownSections)) (Path.ofText "c.json") = .ok c ∧
        c.sections.lookup ("exclude" : WideText) = some (.list []) ∧
        c.sections.lookup ("title" : WideText) = some (.text "Outline") ∧
        load (directoryOf c.toValue) (Path.ofText "c.json") = .ok c := by
  intro host
  have hexclude : ownSections.lookup ("exclude" : WideText) = some .null := rfl
  have htitle : ownSections.lookup ("title" : WideText) = some (.text "Outline") := rfl
  have hlists : ListsPatterns ownSections := by
    intro v hv
    rw [hexclude] at hv
    exact .inl (Option.some.inj hv).symm
  have hwritable : Json.Writable (.object ownSections) := by
    have hscan : Json.Writable (.object [("workers", .int 4)]) :=
      .object (by simp) (by simp [Json.isSpelled_wide]) (by simp [Json.Writable.int])
    refine .object (by decide +kernel) (by simp [ownSections, Json.isSpelled_wide]) ?_
    simp only [ownSections, List.forall_mem_cons]
    exact ⟨.null, hscan, .text (Json.isSpelled_wide _), by simp⟩
  have hfits : Json.Fits Text.mostDigits Host.levels (.object ownSections) := by
    have hscan : Json.Fits Text.mostDigits (998 + 1) (.object [("workers", .int 4)]) :=
      .object (by simpa using fits_int (by decide) 998)
    show Json.Fits Text.mostDigits (999 + 1) _
    refine .object ?_
    simp only [ownSections, List.forall_mem_cons]
    exact ⟨.null, hscan, .text _, by simp⟩
  obtain ⟨c, hload, hmerges, ⟨t, hprint, ht⟩, hagain⟩ :=
    ((load_merges (holdsJson_directoryOf (.object ownSections))
      (Json.isTextOf_indented hwritable 0)).1 hfits).1 hlists
  have ht' : Json.IsTextOf c.toValue (Json.indented 0 c.toValue) := by
    rw [Json.print?] at hprint
    split at hprint
    · rwa [Option.some.inj hprint]
    · cases hprint
  exact ⟨hlists, hfits, c, hload, hmerges.empty _ (by decide) (.inr hexclude),
    hmerges.kept _ _ htitle nofun nofun, hagain _ _ _ (holdsJson_directoryOf c.toValue) ht'⟩

/-- One section, which is an integer with too many digits. -/
def longSection (key : Text) : List (WideText × Value CodePoint) :=
  [(Text.wide key, .int (10 ^ Text.mostDigits))]

/-- The section can be written. -/
lemma isTextOf_longSection (key : Text) :
    Json.IsTextOf (.object (longSection key)) (Json.indented 0 (.object (longSection key))) :=
  Json.isTextOf_indented (.object (by simp [longSection])
    (by simp [longSection, Json.isSpelled_wide]) (by simp [longSection, Json.Writable.int])) 0

/-- The section is beyond the limits of the reader. -/
lemma not_fits_longSection {levels : Nat} (key : Text) :
    ¬Json.Fits Text.mostDigits levels (.object (longSection key)) := by
  intro hfits
  cases hfits with
  | object hfits =>
    cases hfits _ List.mem_cons_self with
    | int hshort =>
      rw [Int.natAbs_pow] at hshort
      exact Nat.lt_irrefl _ hshort

/-- Not every object is loaded or refused as the patterns for what is left out ask for: of two that
hold an integer with too many digits, one without patterns is not loaded, and one with the integer
in their place is not refused with a message. -/
theorem not_loaded_of_long_number :
    let _ : Host := .bare
    (¬∀ (d : Directory) (path : Path) (t : Text) (u : List (WideText × Value CodePoint)),
      HoldsJson d path t → Json.IsTextOf (.object u) t → ListsPatterns u →
        ∃ c, load d path = .ok c) ∧
    ¬∀ (d : Directory) (path : Path) (t : Text) (u : List (WideText × Value CodePoint)),
      HoldsJson d path t → Json.IsTextOf (.object u) t → ¬ListsPatterns u →
        load d path = .error .badExclude := by
  intro host
  have hbroken : ∀ key, load (directoryOf (.object (longSection key))) (Path.ofText "c.json") =
        .error .numberTooLong ∨
      load (directoryOf (.object (longSection key))) (Path.ofText "c.json") =
        .error .nestedTooDeep := fun key =>
    load_of_not_fits (holdsJson_directoryOf _) (isTextOf_longSection key) (not_fits_longSection key)
  refine ⟨fun h => ?_, fun h => ?_⟩
  · have hlists : ListsPatterns (longSection "size") := by
      intro v hv
      cases hv
    obtain ⟨c, hload⟩ := h _ _ _ _ (holdsJson_directoryOf _) (isTextOf_longSection "size") hlists
    rcases hbroken "size" with herror | herror <;> cases herror.symm.trans hload
  · have hlists : ¬ListsPatterns (longSection "exclude") := by
      intro hlists
      have hinteger := hlists (.int (10 ^ Text.mostDigits)) rfl
      simp at hinteger
    have hload := h _ _ _ _ (holdsJson_directoryOf _) (isTextOf_longSection "exclude") hlists
    rcases hbroken "exclude" with herror | herror <;> cases herror.symm.trans hload

end DeclIndex.Config
