import DeclIndex.Proofs.Value.JsonPrinter
import DeclIndex.Proofs.Value.JsonReader
import DeclIndex.Report
import Mathlib.Data.List.Forall2
import Mathlib.Data.List.Nodup

/-!
# What a report in JSON shows

A report in JSON shows all that it is made of. Its text is one of JSON, and what is read back has
every outline with every element, the counts of the run with its errors, and the root. So different
reports never look alike. There is no report only if a number has too many digits to be written.

## Main definitions

* `Report.ShowsElement`, `Report.ShowsOutline`, `Report.ShowsStats` — what the fields of an object
  show.
* `Report.Shows` — what the document shows.
* `Report.ShortNumbers` — no number of a report has too many digits.

## Main results

* `Report.shows_document` — the document shows what it is made of.
* `Report.Shows.unique` — what a document shows is determined by it.
* `Report.isPrintable_document_iff` — the documents that are written.
* `Report.json_loses_nothing` — **the document is read back** from its text.
-/

namespace DeclIndex

/-- The words for kinds are different. -/
lemma Kind.word_injective : Function.Injective Kind.word := by
  intro k k'
  cases k <;> cases k' <;> decide

/-- The words for visibilities are different. -/
lemma Visibility.word_injective : Function.Injective Visibility.word := by
  intro v v'
  cases v <;> cases v' <;> decide

/-! ## Objects with given keys -/

/-- The value of a field of an object whose keys are given by literals. -/
lemma Value.field?_record (fields : List (String × Value)) (key : String) :
    (Value.record fields).field? key.toList = fields.lookup key := by
  induction fields with
  | nil => rfl
  | cons f fields ih =>
    obtain ⟨k, v⟩ := f
    have hkeys : (key.toList == k.toList) = (key == k) := by
      rw [Bool.eq_iff_iff, beq_iff_eq, beq_iff_eq, String.toList_inj]
    rw [List.lookup_cons, ← hkeys, ← ih]
    rfl

/-- An object whose keys are given by different literals, and whose values hold no real numbers. -/
lemma Json.exact_record {fields : List (String × Value)} (hkeys : (fields.map (·.1)).Nodup)
    (h : ∀ f ∈ fields, Exact f.2) : Exact (.record fields) := by
  refine .object ?_ fun f hf => ?_
  · have hdistinct := List.Nodup.map (fun _ _ => String.toList_inj.mp) hkeys
    rwa [List.map_map] at hdistinct ⊢
  · obtain ⟨f, hmem, rfl⟩ := List.mem_map.mp hf
    exact h f hmem

namespace Report

/-! ## What objects show -/

/-- The fields of an object show an element. -/
structure ShowsElement (v : Value) (e : Element) : Prop where
  kind : v.field? "kind" = some (.text e.kind.word)
  name : v.field? "name" = some (.text e.name)
  visibility : v.field? "visibility" = some (.text e.visibility.word)
  parent : v.field? "parent" = some (.text e.parent)
  documentation : v.field? "documentation" = some (.text e.documentation)
  line : v.field? "line" = some (.int e.line)
  keyword : v.field? "keyword" = some (.text e.keyword)

/-- The fields of an object show an outline, its elements in order. -/
structure ShowsOutline (v : Value) (o : Outline) : Prop where
  path : v.field? "path" = some (.text o.path)
  language : v.field? "language" = some (.text o.language)
  elements : ∃ items, v.field? "elements" = some (.list items) ∧
    List.Forall₂ ShowsElement items o.elements

/-- The fields of an object show the path of a file that failed, and the reason. -/
structure ShowsError (v : Value) (e : Text × Text) : Prop where
  path : v.field? "path" = some (.text e.1)
  error : v.field? "error" = some (.text e.2)

/-- The fields of an object show the counts of a run, its errors in order. -/
structure ShowsStats (v : Value) (s : Stats) : Prop where
  processed : v.field? "processed" = some (.int s.processed)
  succeeded : v.field? "succeeded" = some (.int s.succeeded)
  failed : v.field? "failed" = some (.int s.failed)
  skipped : v.field? "skipped" = some (.int s.skipped)
  errors : ∃ items, v.field? "errors" = some (.list items) ∧
    List.Forall₂ ShowsError items s.errors

/-- A summary shows the counts of a run, or is empty if there are none. -/
def ShowsSummary (v : Value) : Option Stats → Prop
  | none => v = .object []
  | some s => ShowsStats v s

/-- The fields of an object show when a report was made, by which version, and the root if there is
one. -/
structure ShowsMeta (v : Value) (time : Text) (root : Option Text) : Prop where
  time : v.field? "generated_at" = some (.text time)
  version : v.field? "tool_version" = some (.text version)
  root : v.field? "root" = root.map .text

/-- A document shows what a report is made of, the outlines in order. -/
structure Shows (v : Value) (time : Text) (outlines : List Outline) (stats : Option Stats)
    (root : Option Text) : Prop where
  origin : ∃ m, v.field? "meta" = some m ∧ ShowsMeta m time root
  summary : ∃ s, v.field? "summary" = some s ∧ ShowsSummary s stats
  files : ∃ items, v.field? "files" = some (.list items) ∧ List.Forall₂ ShowsOutline items outlines

/-! ## What the document shows -/

/-- The items of a list, each made of what it shows. -/
lemma forall₂_map {α : Type} {shows : Value → α → Prop} {make : α → Value}
    (h : ∀ a, shows (make a) a) (l : List α) : List.Forall₂ shows (l.map make) l :=
  List.forall₂_map_left_iff.mpr (List.forall₂_same.mpr fun a _ => h a)

/-- The object that is made of an element shows it. -/
lemma shows_ofElement (e : Element) : ShowsElement (ofElement e) e := by
  constructor <;> rw [ofElement, Value.field?_record] <;> rfl

/-- The object that is made of an outline shows it. -/
lemma shows_ofOutline (o : Outline) : ShowsOutline (ofOutline o) o where
  path := Value.field?_record _ "path"
  language := Value.field?_record _ "language"
  elements := ⟨_, Value.field?_record _ "elements", forall₂_map shows_ofElement o.elements⟩

/-- The object that is made of the counts of a run shows them. -/
lemma shows_ofStats (s : Stats) : ShowsStats (ofStats s) s where
  processed := Value.field?_record _ "processed"
  succeeded := Value.field?_record _ "succeeded"
  failed := Value.field?_record _ "failed"
  skipped := Value.field?_record _ "skipped"
  errors := ⟨_, Value.field?_record _ "errors", forall₂_map
    (fun _ => ⟨Value.field?_record _ "path", Value.field?_record _ "error"⟩) s.errors⟩

/-- **The document shows what it is made of.** -/
theorem shows_document (time : Text) (outlines : List Outline) (stats : Option Stats)
    (root : Option Text) : Shows (document time outlines stats root) time outlines stats root where
  origin := by
    refine ⟨_, Value.field?_record _ "meta", Value.field?_record _ "generated_at",
      Value.field?_record _ "tool_version", ?_⟩
    rw [Value.field?_record]
    cases root <;> rfl
  summary := by
    refine ⟨_, Value.field?_record _ "summary", ?_⟩
    cases stats with
    | none => rfl
    | some s => exact shows_ofStats s
  files := ⟨_, Value.field?_record _ "files", forall₂_map shows_ofOutline outlines⟩

/-! ## What the document determines -/

/-- An object shows one element at most. -/
lemma ShowsElement.unique {v : Value} {e e' : Element} (h : ShowsElement v e)
    (h' : ShowsElement v e') : e = e' := by
  have hkind := h.kind.symm.trans h'.kind
  have hname := h.name.symm.trans h'.name
  have hvisibility := h.visibility.symm.trans h'.visibility
  have hparent := h.parent.symm.trans h'.parent
  have hdocumentation := h.documentation.symm.trans h'.documentation
  have hline := h.line.symm.trans h'.line
  have hkeyword := h.keyword.symm.trans h'.keyword
  simp only [Option.some.injEq, Value.text.injEq, Value.int.injEq] at *
  cases e
  cases e'
  simp_all [Kind.word_injective.eq_iff, Visibility.word_injective.eq_iff]

/-- A list of objects shows one list at most, if each object shows one thing at most. -/
lemma unique_of_forall₂ {α : Type} {shows : Value → α → Prop}
    {o : Option Value} {l l' : List α}
    (h : ∃ items, o = some (.list items) ∧ List.Forall₂ shows items l)
    (h' : ∃ items, o = some (.list items) ∧ List.Forall₂ shows items l')
    (hunique : ∀ v a a', shows v a → shows v a' → a = a') : l = l' := by
  obtain ⟨items, rfl, hitems⟩ := h
  obtain ⟨items', heq, hitems'⟩ := h'
  cases heq
  exact List.right_unique_forall₂' hunique hitems hitems'

/-- An object shows one outline at most. -/
lemma ShowsOutline.unique {v : Value} {o o' : Outline} (h : ShowsOutline v o)
    (h' : ShowsOutline v o') : o = o' := by
  have hpath := h.path.symm.trans h'.path
  have hlanguage := h.language.symm.trans h'.language
  have helements := unique_of_forall₂ h.elements h'.elements fun _ _ _ => ShowsElement.unique
  simp only [Option.some.injEq, Value.text.injEq] at *
  cases o
  cases o'
  simp_all

/-- An object shows the counts of one run at most. -/
lemma ShowsStats.unique {v : Value} {s s' : Stats} (h : ShowsStats v s) (h' : ShowsStats v s') :
    s = s' := by
  have hprocessed := h.processed.symm.trans h'.processed
  have hsucceeded := h.succeeded.symm.trans h'.succeeded
  have hfailed := h.failed.symm.trans h'.failed
  have hskipped := h.skipped.symm.trans h'.skipped
  have herror : ∀ v e e', ShowsError v e → ShowsError v e' → e = e' := by
    intro v e e' he he'
    have hpath := he.path.symm.trans he'.path
    have hreason := he.error.symm.trans he'.error
    simp only [Option.some.injEq, Value.text.injEq] at hpath hreason
    exact Prod.ext hpath hreason
  have herrors := unique_of_forall₂ h.errors h'.errors herror
  simp only [Option.some.injEq, Value.int.injEq] at *
  cases s
  cases s'
  simp_all

/-- A summary shows the counts of one run at most, or that there are none. -/
lemma ShowsSummary.unique {v : Value} {stats stats' : Option Stats} (h : ShowsSummary v stats)
    (h' : ShowsSummary v stats') : stats = stats' := by
  have hempty : ∀ s, ¬ShowsStats (.object []) s := fun s hs => by cases hs.processed
  cases stats with
  | none =>
    cases h
    cases stats' with
    | none => rfl
    | some s' => exact absurd h' (hempty s')
  | some s =>
    cases stats' with
    | none =>
      cases h'
      exact absurd h (hempty s)
    | some s' => rw [ShowsStats.unique h h']

/-- **What a document shows** is determined by it. -/
theorem Shows.unique {v : Value} {time time' : Text} {outlines outlines' : List Outline}
    {stats stats' : Option Stats} {root root' : Option Text} (h : Shows v time outlines stats root)
    (h' : Shows v time' outlines' stats' root') :
    time = time' ∧ outlines = outlines' ∧ stats = stats' ∧ root = root' := by
  obtain ⟨m, hm, hmeta⟩ := h.origin
  obtain ⟨m', hm', hmeta'⟩ := h'.origin
  obtain ⟨s, hs, hsummary⟩ := h.summary
  obtain ⟨s', hs', hsummary'⟩ := h'.summary
  obtain rfl : m = m' := Option.some.inj (hm.symm.trans hm')
  obtain rfl : s = s' := Option.some.inj (hs.symm.trans hs')
  have htime := hmeta.time.symm.trans hmeta'.time
  have hroot := hmeta.root.symm.trans hmeta'.root
  refine ⟨by simpa using htime, unique_of_forall₂ h.files h'.files fun _ _ _ => ShowsOutline.unique,
    hsummary.unique hsummary', ?_⟩
  exact Option.map_injective (fun _ _ => Value.text.inj) hroot

/-! ## The document as a text -/

/-- The items of a list hold no real numbers, if none is made with one. -/
lemma exact_map {α : Type} {make : α → Value} (h : ∀ a, Json.Exact (make a)) (l : List α) :
    Json.Exact (.list (l.map make)) :=
  .list (List.forall_mem_map.mpr fun a _ => h a)

/-- An outline is written without real numbers. -/
lemma exact_ofOutline (o : Outline) : Json.Exact (ofOutline o) := by
  have helement : ∀ e, Json.Exact (ofElement e) := by
    intro e
    refine Json.exact_record (by simp) ?_
    simp only [List.forall_mem_cons]
    exact ⟨.text _, .text _, .text _, .text _, .text _, .int _, .text _, by simp⟩
  refine Json.exact_record (by simp) ?_
  simp only [List.forall_mem_cons]
  exact ⟨.text _, .text _, exact_map helement _, by simp⟩

/-- The counts of a run are written without real numbers. -/
lemma exact_ofStats (s : Stats) : Json.Exact (ofStats s) := by
  have herror : ∀ e : Text × Text,
      Json.Exact (.record [("path", .text e.1), ("error", .text e.2)]) := by
    intro e
    refine Json.exact_record (by simp) ?_
    simp only [List.forall_mem_cons]
    exact ⟨.text _, .text _, by simp⟩
  refine Json.exact_record (by simp) ?_
  simp only [List.forall_mem_cons]
  exact ⟨.int _, .int _, .int _, .int _, exact_map herror _, by simp⟩

/-- The document is written without real numbers, and the keys of its objects are distinct. -/
lemma exact_document (time : Text) (outlines : List Outline) (stats : Option Stats)
    (root : Option Text) : Json.Exact (document time outlines stats root) := by
  have hsummary : Json.Exact ((stats.map ofStats).getD (.object [])) := by
    cases stats with
    | none => exact .object List.nodup_nil (by simp)
    | some s => exact exact_ofStats s
  refine Json.exact_record (by simp) ?_
  simp only [List.forall_mem_cons]
  refine ⟨?_, hsummary, exact_map exact_ofOutline _, by simp⟩
  cases root with
  | none =>
    refine Json.exact_record (by simp) ?_
    simp [Json.Exact.text]
  | some root =>
    refine Json.exact_record (by simp) ?_
    simp [Json.Exact.text]

/-! ## Numbers -/

/-- A number has no more digits than can be written. -/
def Short (n : Int) : Prop :=
  n.natAbs < Nat.pow 10 Text.mostDigits

/-- No number of a report has too many digits. -/
structure ShortNumbers (outlines : List Outline) (stats : Option Stats) : Prop where
  line : ∀ o ∈ outlines, ∀ e ∈ o.elements, Short e.line
  counts : ∀ s ∈ stats, Short s.processed ∧ Short s.succeeded ∧ Short s.failed ∧ Short s.skipped

/-- An object keeps within limits if the values of its fields do. -/
lemma fits_record {levels : Nat} {fields : List (String × Value)}
    (h : ∀ f ∈ fields, Json.Fits Text.mostDigits levels f.2) :
    Json.Fits Text.mostDigits (levels + 1) (.record fields) :=
  .object (List.forall_mem_map.mpr h)

/-- A list keeps within limits if what is made for its items does. -/
lemma fits_map {α : Type} {levels : Nat} {make : α → Value} {l : List α}
    (h : ∀ a ∈ l, Json.Fits Text.mostDigits levels (make a)) :
    Json.Fits Text.mostDigits (levels + 1) (.list (l.map make)) :=
  .list (List.forall_mem_map.mpr h)

/-- What is made of an element with a short number keeps within limits. -/
lemma fits_ofElement {e : Element} (h : Short e.line) :
    Json.Fits Text.mostDigits 1 (ofElement e) := by
  refine fits_record ?_
  simp only [List.forall_mem_cons]
  exact ⟨.text _, .text _, .text _, .text _, .text _, .int h, .text _, by simp⟩

/-- What is made of an outline with short numbers keeps within limits. -/
lemma fits_ofOutline {o : Outline} (h : ∀ e ∈ o.elements, Short e.line) :
    Json.Fits Text.mostDigits 3 (ofOutline o) := by
  refine fits_record ?_
  simp only [List.forall_mem_cons]
  exact ⟨.text _, .text _, fits_map fun e he => fits_ofElement (h e he), by simp⟩

/-- What is made of short counts keeps within limits. -/
lemma fits_ofStats {s : Stats}
    (h : Short s.processed ∧ Short s.succeeded ∧ Short s.failed ∧ Short s.skipped) :
    Json.Fits Text.mostDigits 3 (ofStats s) := by
  have herror : ∀ e : Text × Text,
      Json.Fits Text.mostDigits 1 (.record [("path", .text e.1), ("error", .text e.2)]) := by
    intro e
    refine fits_record ?_
    simp only [List.forall_mem_cons]
    exact ⟨.text _, .text _, by simp⟩
  obtain ⟨hprocessed, hsucceeded, hfailed, hskipped⟩ := h
  refine fits_record ?_
  simp only [List.forall_mem_cons]
  exact ⟨.int hprocessed, .int hsucceeded, .int hfailed, .int hskipped,
    fits_map fun e _ => herror e, by simp⟩

/-- A document with short numbers keeps within limits: elements lie in five lists and objects. -/
lemma fits_document {time : Text} {outlines : List Outline} {stats : Option Stats}
    {root : Option Text} (h : ShortNumbers outlines stats) :
    Json.Fits Text.mostDigits 5 (document time outlines stats root) := by
  have hsummary : Json.Fits Text.mostDigits 4 ((stats.map ofStats).getD (.object [])) := by
    cases stats with
    | none => exact .object (by simp)
    | some s => exact (fits_ofStats (h.counts s rfl)).mono (Nat.le_refl _) (by decide)
  have hmeta : Json.Fits Text.mostDigits 4 (.record ([("generated_at", .text time),
      ("tool_version", .text version)] ++ root.toList.map fun r => ("root", .text r))) := by
    refine fits_record ?_
    cases root <;> simp [Json.Fits.text]
  refine fits_record ?_
  simp only [List.forall_mem_cons]
  exact ⟨hmeta, hsummary, fits_map fun o ho => fits_ofOutline (h.line o ho), by simp⟩

/-- **The documents that are written** are those whose numbers are short. -/
theorem isPrintable_document_iff {time : Text} {outlines : List Outline} {stats : Option Stats}
    {root : Option Text} :
    Json.isPrintable Text.mostDigits (document time outlines stats root) = true ↔
      ShortNumbers outlines stats := by
  refine ⟨fun h => ?_, fun h => Json.isPrintable_iff.mpr ⟨5, fits_document h⟩⟩
  have hshort : ∀ {v : Value} {key : Text} {n : Int}, Json.isPrintable Text.mostDigits v = true →
      v.field? key = some (.int n) → Short n := fun hv hfield =>
    by simpa [Json.isPrintable, Short] using Json.isPrintable_of_field? hv hfield
  refine ⟨fun o ho e he => ?_, fun s hs => ?_⟩
  · have hfiles : (document time outlines stats root).field? "files" =
        some (.list (outlines.map ofOutline)) := Value.field?_record _ "files"
    have hitems : (ofOutline o).field? "elements" = some (.list (o.elements.map ofElement)) :=
      Value.field?_record _ "elements"
    have houtline := Json.isPrintable_of_mem (Json.isPrintable_of_field? h hfiles) _
      (List.mem_map.mpr ⟨o, ho, rfl⟩)
    have helement := Json.isPrintable_of_mem (Json.isPrintable_of_field? houtline hitems) _
      (List.mem_map.mpr ⟨e, he, rfl⟩)
    exact hshort helement (shows_ofElement e).line
  · obtain rfl : stats = some s := hs
    have hsummary : (document time outlines (some s) root).field? "summary" = some (ofStats s) :=
      Value.field?_record _ "summary"
    have hstats := Json.isPrintable_of_field? h hsummary
    have hshows := shows_ofStats s
    exact ⟨hshort hstats hshows.processed, hshort hstats hshows.succeeded,
      hshort hstats hshows.failed, hshort hstats hshows.skipped⟩

/-- **A report in JSON loses nothing.** There is a report exactly if no number has too many digits.
Its text is one of JSON that writes a single value, and what is read back has the outlines in order
with all that is known of their elements, the counts of the run with its errors in order, or an
empty summary, and the root if one is given. So two reports are alike only if they are made of the
same outlines, counts, root and time.

**Proof sketch.** The document shows all that it is made of (`shows_document`), and determines it
(`Shows.unique`). Every value is written as a text that writes it (`Json.isTextOf_indented`), and a
text writes one value at most (`Json.IsTextOf.unique`). The reader goes as deep as the elements of a
report lie (`fits_document`). -/
theorem json_loses_nothing (time : Text) (outlines : List Outline) (stats : Option Stats)
    (root : Option Text) :
    (ShortNumbers outlines stats ↔ (json time outlines stats root).isSome) ∧
    ∀ t, json time outlines stats root = some t →
      (∃ v : Value, (∀ v', Json.IsTextOf v' t ↔ v' = v.wide) ∧ Json.Exact v ∧
        (∀ levels, 5 ≤ levels → Json.read levels t = .ok v.wide) ∧
          Shows v time outlines stats root) ∧
      ∀ time' outlines' stats' root', json time' outlines' stats' root' = some t ↔
        time = time' ∧ outlines = outlines' ∧ stats = stats' ∧ root = root' := by
  have hprint : ∀ {time outlines stats root}, ShortNumbers outlines stats ↔
      (json time outlines stats root).isSome := by
    intro time outlines stats root
    rw [json, Json.print?, Json.isPrintable_wide, Option.isSome_ite, isPrintable_document_iff]
  have htext : ∀ {time outlines stats root t}, json time outlines stats root = some t →
      Json.IsTextOf (document time outlines stats root).wide t := by
    intro time outlines stats root t h
    rw [json, Json.print?, Option.ite_none_right_eq_some] at h
    rw [← Option.some.inj h.2]
    exact Json.isTextOf_indented (exact_document time outlines stats root).writable 0
  refine ⟨hprint, fun t ht => ⟨⟨document time outlines stats root,
    fun v' => ⟨fun h' => h'.unique (htext ht), ?_⟩, exact_document time outlines stats root,
    fun levels hlevels => ?_, shows_document time outlines stats root⟩,
    fun time' outlines' stats' root' => ⟨fun h => ?_, ?_⟩⟩⟩
  · rintro rfl
    exact htext ht
  · have hshort := hprint.mpr (Option.isSome_of_eq_some ht)
    exact Json.read_of_isTextOf (htext ht)
      ((fits_document hshort).wide.mono (Nat.le_refl _) hlevels)
  · have hsame := Value.wide_injective ((htext ht).unique (htext h))
    exact (hsame ▸ shows_document time outlines stats root).unique
      (shows_document time' outlines' stats' root')
  · rintro ⟨rfl, rfl, rfl, rfl⟩
    exact ht

/-- An outline of one element, which stands on a given line. -/
def ofLine (n : Int) : List Outline :=
  [{ path := "a.rs"
     language := "rust"
     elements := [{ kind := .function, name := "f", line := n }] }]

/-- The report on an element is there, and is read back. -/
theorem json_loses_nothing_of_element :
    ∃ t v, json "now" (ofLine 1) none (some "/") = some t ∧ Json.read 5 t = .ok (Value.wide v) ∧
      Shows v "now" (ofLine 1) none (some "/") := by
  obtain ⟨hsome, hreport⟩ := json_loses_nothing "now" (ofLine 1) none (some "/")
  have hone : Short 1 := Nat.one_lt_pow (Nat.ne_of_gt Text.mostDigits_pos) (by decide)
  have hshort : ShortNumbers (ofLine 1) none := ⟨by simpa [ofLine] using hone, by simp⟩
  obtain ⟨t, ht⟩ := Option.isSome_iff_exists.mp (hsome.mp hshort)
  obtain ⟨⟨v, -, -, hread, hshows⟩, -⟩ := hreport t ht
  exact ⟨t, v, ht, hread 5 (Nat.le_refl _), hshows⟩

/-- Not every report is there: none is on an element whose line has 4301 digits. -/
theorem not_json_of_long_line :
    ¬∀ (time : Text) (outlines : List Outline) (stats : Option Stats) (root : Option Text),
      ∃ t, json time outlines stats root = some t := by
  intro h
  obtain ⟨t, ht⟩ := h [] (ofLine (10 ^ Text.mostDigits)) none none
  have hprint := (Json.isPrintable_wide _).symm.trans (Option.ite_none_right_eq_some.mp ht).1
  have hshort := (isPrintable_document_iff.mp hprint).line _ List.mem_cons_self _ List.mem_cons_self
  rw [Short, Int.natAbs_pow] at hshort
  exact Nat.lt_irrefl _ hshort

end Report

end DeclIndex
