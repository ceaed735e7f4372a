import DeclIndex.Assoc
import Mathlib.Data.List.Basic
import Mathlib.Tactic.Common

/-!
# Association lists that are written to

A list to which keys are written one after the other has, for every key, the value that was written
last, and holds its keys in the order in which they were first written, each of them once.

## Main results

* `Assoc.nodup_keys_overlay` — writing keeps the keys distinct.
* `Assoc.overlay_overlay` — writing the same once more changes nothing.
* `Assoc.find?_keys_set` — a key that is written anew comes after all others.
* `Assoc.lookup_overlay` — the value that was written last counts.
* `Assoc.find?_eq_bind_lookup` — searching by a test of keys is looking up the first key that passes.
* `Assoc.mem_iff_lookup` — with distinct keys, the entries are what is looked up.
-/

namespace DeclIndex.Assoc

variable {α β : Type}

/-! ## Keys -/

/-- A key among distinct ones is not among those before it. -/
lemma not_mem_keys_of_nodup {pre l : List (α × β)} {key : α} {b : β}
    (h : ((pre ++ (key, b) :: l).map (·.1)).Nodup) : key ∉ pre.map (·.1) := by
  rw [List.map_append, List.map_cons] at h
  exact fun hkey => (List.nodup_append.mp h).2.2 key hkey key List.mem_cons_self rfl

variable [DecidableEq α]

/-- Writing a key keeps the keys distinct. -/
lemma nodup_keys_set (key : α) (b : β) {l : List (α × β)} (hl : (l.map (·.1)).Nodup) :
    ((set key b l).map (·.1)).Nodup := by
  rw [keys_set]
  split
  · exact hl
  · rename_i hkey
    refine List.nodup_append.mpr ⟨hl, List.pairwise_singleton _ key, ?_⟩
    rintro a ha c hc rfl
    rw [List.mem_singleton] at hc
    exact hkey (hc ▸ ha)

/-- **Writing keeps the keys distinct.** -/
lemma nodup_keys_overlay (upper : List (α × β)) : ∀ {under : List (α × β)},
    (under.map (·.1)).Nodup → ((overlay under upper).map (·.1)).Nodup := by
  induction upper with
  | nil => exact id
  | cons e upper ih => exact fun hunder => ih (nodup_keys_set e.1 e.2 hunder)

/-- **A key that is written anew comes after all others**, and one that is written again keeps its
place: a search among the keys finds the key only if it finds no other. -/
lemma find?_keys_set (test : α → Bool) (key : α) (b : β) (l : List (α × β)) :
    ((set key b l).map (·.1)).find? test = ((l.map (·.1)).find? test).or ([key].find? test) := by
  rw [keys_set]
  split
  · rename_i hkey
    cases hfind : (l.map (·.1)).find? test with
    | some k => rfl
    | none =>
      have hnot := List.find?_eq_none.mp hfind key hkey
      simp [hnot]
  · rw [List.find?_append]

/-- A key that is not among those in front is written behind them. -/
lemma set_append_of_not_mem {key : α} (b : β) {pre : List (α × β)} (h : key ∉ pre.map (·.1))
    (l : List (α × β)) : set key b (pre ++ l) = pre ++ set key b l := by
  induction pre with
  | nil => rfl
  | cons e pre ih =>
    obtain ⟨k, c⟩ := e
    rw [List.map_cons, List.mem_cons, not_or] at h
    rw [List.cons_append, set, if_neg (Ne.symm h.1), ih h.2, List.cons_append]

/-- A new key comes at the end. -/
lemma set_of_not_mem {key : α} (b : β) {l : List (α × β)} (h : key ∉ l.map (·.1)) :
    set key b l = l ++ [(key, b)] := by
  have hend := set_append_of_not_mem b h []
  rwa [List.append_nil] at hend

/-- Writing a key keeps the keys before it. -/
lemma keys_prefix_set (key : α) (b : β) (l : List (α × β)) :
    l.map (·.1) <+: (set key b l).map (·.1) := by
  rw [keys_set]
  split
  · exact List.prefix_rfl
  · exact List.prefix_append _ _

/-- **Writing keeps the keys before those that are new.** -/
lemma keys_prefix_overlay (upper : List (α × β)) : ∀ under : List (α × β),
    under.map (·.1) <+: (overlay under upper).map (·.1) := by
  induction upper with
  | nil => exact fun _ => List.prefix_rfl
  | cons e upper ih => exact fun under => (keys_prefix_set e.1 e.2 under).trans (ih _)

/-- The keys of a list after writing: those from before and those that are written. -/
lemma mem_keys_overlay {k : α} (upper : List (α × β)) : ∀ {under : List (α × β)},
    k ∈ (overlay under upper).map (·.1) ↔ k ∈ under.map (·.1) ∨ k ∈ upper.map (·.1) := by
  induction upper with
  | nil => simp [overlay]
  | cons e upper ih =>
    intro under
    have hstep : overlay under (e :: upper) = overlay (set e.1 e.2 under) upper := rfl
    have hset : k ∈ (set e.1 e.2 under).map (·.1) ↔ k ∈ under.map (·.1) ∨ k = e.1 := by
      rw [keys_set]
      split
      · rename_i hmem
        exact ⟨.inl, fun h => h.elim id (· ▸ hmem)⟩
      · rw [List.mem_append, List.mem_singleton]
    rw [hstep, ih, hset, List.map_cons, List.mem_cons, or_assoc]

/-- A list that has the keys of another one in front, in their order, takes its place when it is
written over it, behind what is not written over. -/
lemma overlay_append_of_prefix {pre under upper : List (α × β)}
    (hkeys : ((pre ++ upper).map (·.1)).Nodup) (h : under.map (·.1) <+: upper.map (·.1)) :
    overlay (pre ++ under) upper = pre ++ upper := by
  induction upper generalizing pre under with
  | nil =>
    rw [List.map_nil, List.prefix_nil, List.map_eq_nil_iff] at h
    rw [h]
    rfl
  | cons e upper ih =>
    obtain ⟨key, b⟩ := e
    have hkey : key ∉ pre.map (·.1) := not_mem_keys_of_nodup hkeys
    have hkeys' : (((pre ++ [(key, b)]) ++ upper).map (·.1)).Nodup := by
      rwa [List.append_assoc]
    have hstep : overlay (pre ++ under) ((key, b) :: upper) =
        overlay (pre ++ set key b under) upper := by
      rw [← set_append_of_not_mem b hkey]
      rfl
    have hunder : ∃ under', set key b under = (key, b) :: under' ∧
        under'.map (·.1) <+: upper.map (·.1) := by
      cases under with
      | nil => exact ⟨[], rfl, List.nil_prefix⟩
      | cons e under =>
        obtain ⟨k, c⟩ := e
        obtain ⟨rfl, hrest⟩ := List.cons_prefix_cons.mp h
        exact ⟨under, if_pos rfl, hrest⟩
    obtain ⟨under', hset, hprefix⟩ := hunder
    rw [hstep, hset, List.append_cons, ih hkeys' hprefix, List.append_assoc, List.singleton_append]

/-- **A list that has the keys of another one in front**, in their order, takes its place when it is
written over it. -/
lemma overlay_of_prefix {under upper : List (α × β)} (hkeys : (upper.map (·.1)).Nodup)
    (h : under.map (·.1) <+: upper.map (·.1)) : overlay under upper = upper := by
  have happend : overlay ([] ++ under) upper = [] ++ upper := overlay_append_of_prefix hkeys h
  exact happend

/-- **What was written over a list** takes its place when it is written over it again. -/
lemma overlay_overlay {under upper : List (α × β)} (hkeys : (under.map (·.1)).Nodup) :
    overlay under (overlay under upper) = overlay under upper :=
  overlay_of_prefix (nodup_keys_overlay upper hkeys) (keys_prefix_overlay upper under)

/-- An entry of a list to which a key was written is new, or was there before. -/
lemma eq_or_mem_of_mem_set {key : α} {b : β} {l : List (α × β)} {e : α × β}
    (h : e ∈ set key b l) : e = (key, b) ∨ e ∈ l := by
  induction l with
  | nil => exact .inl (List.mem_singleton.mp h)
  | cons e' l ih =>
    obtain ⟨k, c⟩ := e'
    rw [set] at h
    split at h
    · rename_i hk
      rw [← hk]
      exact (List.mem_cons.mp h).imp_right (List.mem_cons_of_mem _)
    · rcases List.mem_cons.mp h with rfl | h
      · exact .inr List.mem_cons_self
      · exact (ih h).imp_right (List.mem_cons_of_mem _)

/-- An entry of a list that was written over another one is in one of the two. -/
lemma mem_or_mem_of_mem_overlay {upper : List (α × β)} {e : α × β} : ∀ {under : List (α × β)},
    e ∈ overlay under upper → e ∈ under ∨ e ∈ upper := by
  induction upper with
  | nil => exact fun h => .inl h
  | cons f upper ih =>
    intro under h
    rcases ih h with hset | hupper
    · rcases eq_or_mem_of_mem_set hset with rfl | hunder
      exacts [.inr List.mem_cons_self, .inl hunder]
    · exact .inr (List.mem_cons_of_mem f hupper)

/-! ## Values -/

variable [BEq α] [LawfulBEq α]

/-- **The value that was written last counts.** -/
lemma lookup_overlay (k : α) (upper : List (α × β)) : ∀ under : List (α × β),
    (overlay under upper).lookup k = (upper.reverse.lookup k).or (under.lookup k) := by
  induction upper with
  | nil => intro under; rfl
  | cons e upper ih =>
    intro under
    have hstep : overlay under (e :: upper) = overlay (set e.1 e.2 under) upper := rfl
    rw [hstep, ih, lookup_set, List.reverse_cons, List.lookup_append, Option.or_assoc, lookup_cons,
      List.lookup_nil]
    split <;> rfl

/-- The keys of a list are those that are found. -/
lemma mem_keys_iff {k : α} {l : List (α × β)} :
    k ∈ l.map (·.1) ↔ ∃ b, l.lookup k = some b := by
  induction l with
  | nil => simp
  | cons e l ih =>
    obtain ⟨key, c⟩ := e
    rw [List.map_cons, List.mem_cons, ih, lookup_cons]
    by_cases hk : k = key <;> simp [hk]

/-- What is found is an entry. -/
lemma mem_of_lookup {k : α} {b : β} {l : List (α × β)} (h : l.lookup k = some b) : (k, b) ∈ l := by
  induction l with
  | nil => cases h
  | cons e l ih =>
    obtain ⟨key, c⟩ := e
    rw [lookup_cons] at h
    split at h
    · rename_i hk
      cases h
      exact hk ▸ List.mem_cons_self
    · exact List.mem_cons_of_mem _ (ih h)

/-- What is no key of a list is not found. -/
lemma lookup_eq_none {k : α} {l : List (α × β)} (h : k ∉ l.map (·.1)) : l.lookup k = none := by
  rw [mem_keys_iff, ← Option.ne_none_iff_exists', not_not] at h
  exact h

/-- A list of keys that are all given one value. -/
lemma lookup_map_const (k : α) (b : β) (keys : List α) :
    (keys.map fun key => (key, b)).lookup k = if k ∈ keys then some b else none := by
  induction keys with
  | nil => rfl
  | cons key keys ih =>
    rw [List.map_cons, lookup_cons, ih]
    by_cases hk : k = key <;> simp [hk]

/-- The values of a list changed, each as its key says. -/
lemma lookup_map_values {γ : Type} (f : α → β → γ) (k : α) (l : List (α × β)) :
    (l.map fun e => (e.1, f e.1 e.2)).lookup k = (l.lookup k).map (f k) := by
  induction l with
  | nil => rfl
  | cons e l ih =>
    obtain ⟨key, b⟩ := e
    rw [List.map_cons, lookup_cons, lookup_cons, ih]
    by_cases hk : k = key <;> simp [hk]

/-- Writing one value to several keys. -/
lemma lookup_overlay_const (k : α) (b : β) (keys : List α) (under : List (α × β)) :
    (overlay under (keys.map fun key => (key, b))).lookup k =
      if k ∈ keys then some b else under.lookup k := by
  rw [lookup_overlay, ← List.map_reverse, lookup_map_const]
  simp only [List.mem_reverse]
  split <;> rfl

/-! ## Entries -/

/-- **Searching by a test of keys** is looking up the first key that passes the test. -/
lemma find?_eq_bind_lookup (test : α → Bool) (l : List (α × β)) :
    (l.find? fun e => test e.1).map (·.2) = ((l.map (·.1)).find? test).bind fun k => l.lookup k := by
  induction l with
  | nil => rfl
  | cons e l ih =>
    obtain ⟨key, b⟩ := e
    cases htest : test key with
    | true => simp [htest]
    | false =>
      have hskip : ∀ k, (l.map (·.1)).find? test = some k →
          ((key, b) :: l).lookup k = l.lookup k := by
        intro k hk
        have hne : k ≠ key := by
          rintro rfl
          rw [List.find?_some hk] at htest
          exact absurd htest (by decide)
        rw [lookup_cons, if_neg hne]
      rw [List.find?_cons_of_neg (by simp [htest]), List.map_cons,
        List.find?_cons_of_neg (by simp [htest]), ih]
      cases hfind : (l.map (·.1)).find? test with
      | none => rfl
      | some k => exact (hskip k hfind).symm

/-- **With distinct keys**, the entries are what is looked up. -/
lemma mem_iff_lookup {l : List (α × β)} (hl : (l.map (·.1)).Nodup) (k : α) (b : β) :
    (k, b) ∈ l ↔ l.lookup k = some b := by
  induction l with
  | nil => simp
  | cons e l ih =>
    obtain ⟨key, c⟩ := e
    rw [List.map_cons] at hl
    obtain ⟨hkey, hrest⟩ := List.nodup_cons.mp hl
    rw [lookup_cons, List.mem_cons, ih hrest]
    by_cases hk : k = key
    · subst hk
      have hnone : l.lookup k ≠ some b := by
        intro hsome
        exact hkey (List.mem_map.mpr ⟨(k, b), (ih hrest).mpr hsome, rfl⟩)
      simp [hnone, eq_comm]
    · simp [hk]

/-- **With distinct keys**, it does not matter from which end they are looked up. -/
lemma lookup_reverse {l : List (α × β)} (hl : (l.map (·.1)).Nodup) (k : α) :
    l.reverse.lookup k = l.lookup k := by
  have hreverse : (l.reverse.map (·.1)).Nodup := by
    rw [List.map_reverse]
    exact List.pairwise_reverse.mpr (hl.imp Ne.symm)
  apply Option.ext
  intro b
  rw [← mem_iff_lookup hreverse, List.mem_reverse, mem_iff_lookup hl]

/-- **Two lists with the same distinct keys**, in one order, are equal if the same is looked up in
them. -/
lemma eq_of_lookup {l : List (α × β)} : ∀ {l' : List (α × β)}, l.map (·.1) = l'.map (·.1) →
    (l.map (·.1)).Nodup → (∀ k, l.lookup k = l'.lookup k) → l = l' := by
  induction l with
  | nil => exact fun hkeys _ _ => (List.map_eq_nil_iff.mp hkeys.symm).symm
  | cons e l ih =>
    obtain ⟨key, b⟩ := e
    intro l' hkeys hl hlookup
    cases l' with
    | nil => cases hkeys
    | cons e' l' =>
      obtain ⟨key', b'⟩ := e'
      obtain ⟨rfl, hrest⟩ := List.cons.inj hkeys
      obtain ⟨hkey, hl⟩ := List.nodup_cons.mp hl
      have hvalue := hlookup key
      rw [lookup_cons, lookup_cons, if_pos rfl, if_pos rfl] at hvalue
      have hlookup' : ∀ k, l.lookup k = l'.lookup k := by
        intro k
        have hk := hlookup k
        rw [lookup_cons, lookup_cons] at hk
        by_cases heq : k = key
        · rw [heq, lookup_eq_none hkey, lookup_eq_none (hrest ▸ hkey)]
        · rwa [if_neg heq, if_neg heq] at hk
      rw [ih hrest hl hlookup', Option.some.inj hvalue]

end DeclIndex.Assoc
