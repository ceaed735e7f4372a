/-!
# Association lists

Lists of keys with values, in the order in which the keys were first set. Setting a key again
changes its value and keeps its place.

## Main definitions

* `Assoc.set` — the list with one key set.
* `Assoc.overlay` — the list with all keys of another set.

## Main results

* `Assoc.lookup_set` — a key that was set has its new value, all others keep theirs.
* `Assoc.keys_set` — setting adds its key at the end unless it is there.
-/

namespace DeclIndex.Assoc

variable {α β : Type} [DecidableEq α]

/-- The list with a key set: in its place if it is there, else at the end. -/
def set (key : α) (b : β) : List (α × β) → List (α × β)
  | [] => [(key, b)]
  | (k, c) :: rest => if k = key then (k, b) :: rest else (k, c) :: set key b rest

theorem lookup_cons [BEq α] [LawfulBEq α] (k m : α) (c : β) (l : List (α × β)) :
    ((m, c) :: l).lookup k = if k = m then some c else l.lookup k := by
  by_cases h : k = m
  · simp [h]
  · have hb : (k == m) = false := by simpa using h
    simp [List.lookup_cons, h, hb]

theorem lookup_set [BEq α] [LawfulBEq α] (key k : α) (b : β) (l : List (α × β)) :
    (set key b l).lookup k = if k = key then some b else l.lookup k := by
  induction l with
  | nil => simp only [set, lookup_cons, List.lookup_nil]
  | cons e rest ih =>
    obtain ⟨m, c⟩ := e
    by_cases hm : m = key
    · subst hm
      by_cases h : k = m <;> simp [set, lookup_cons, h]
    · by_cases hk : k = m
      · subst hk
        simp [set, hm]
      · simp [set, lookup_cons, hm, hk, ih]

theorem keys_set (key : α) (b : β) (l : List (α × β)) :
    (set key b l).map (·.1) =
      if key ∈ l.map (·.1) then l.map (·.1) else l.map (·.1) ++ [key] := by
  induction l with
  | nil => simp [set]
  | cons e rest ih =>
    obtain ⟨m, c⟩ := e
    by_cases hm : m = key
    · simp [set, hm]
    · have hm' : key ≠ m := fun h => hm h.symm
      simp only [set, hm, if_false, List.map_cons, ih, List.mem_cons, hm', false_or]
      split <;> simp

/-- The list with the keys of another set one after the other. -/
def overlay (under upper : List (α × β)) : List (α × β) :=
  upper.foldl (fun l e => set e.1 e.2 l) under

end DeclIndex.Assoc
