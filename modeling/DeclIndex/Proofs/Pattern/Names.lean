import DeclIndex.Pattern.Reader
import Mathlib.Data.List.Basic
import Mathlib.Tactic.Common

/-!
# Names in the state of the reader

The reader keeps the names of groups apart from everything else. They are looked up when a token
mentions a name, and they are added to when a token gives one. So two readings that differ in their
names only, and look up the same numbers, go on alike.

## Main definitions

* `Pattern.Reading.withNames` — the state of the reader with other names.
* `Pattern.Token.name?`, `Pattern.Token.named`, `Pattern.Token.captures` — the name that a token
  mentions, the names it gives and the groups it opens.
* `Pattern.Reading.AllNamed` — every group that has been opened has a name.

## Main results

* `Pattern.Reading.push_names` — how a token changes the names and the number of groups.
* `Pattern.Reading.push_withNames` — a token does the same whatever the names that it does not
  mention.
* `Pattern.Reading.AllNamed.push` — every group keeps a name until one without is opened.
-/

namespace DeclIndex.Pattern

/-- The name that a token mentions. -/
def Token.name? : Token → Option Text
  | .opening (.capture name) => name
  | .opening (.ifName name) => some name
  | .namedReference name => some name
  | _ => none

/-- The names that a token gives to the group with number `i`. -/
def Token.named (i : Nat) : Token → List (Text × Nat)
  | .opening (.capture (some name)) => [(name, i)]
  | _ => []

/-- A token gives a name only if it is the opening of a group with that name. -/
lemma Token.named_eq (k : Token) (i : Nat) :
    k.named i = [] ∨ ∃ name, k = .opening (.capture (some name)) ∧ k.named i = [(name, i)] := by
  cases k with
  | opening o =>
    cases o with
    | capture given =>
      cases given with
      | none => exact .inl rfl
      | some name => exact .inr ⟨name, rfl, rfl⟩
    | _ => exact .inl rfl
  | _ => exact .inl rfl

/-- The number of capturing groups that a token opens. -/
def Token.captures : Token → Nat
  | .opening (.capture _) => 1
  | _ => 0

namespace Reading

/-- The state of the reader with other names. -/
def withNames (r : Reading) (names : List (Text × Nat)) : Reading :=
  { r with names }

/-! ## One token -/

section

variable {r u : Reading} {k : Token}

/-- Opening a capturing group adds one to the number of groups, and its name to the names. -/
lemma capture_names {name : Option Text} (h : r.capture name = .ok u) :
    u.groups = r.groups + 1 ∧
      u.names = (Token.opening (.capture name)).named u.groups ++ r.names := by
  cases name with
  | none =>
    cases h
    exact ⟨rfl, rfl⟩
  | some name =>
    rw [capture] at h
    split at h
    · cases h
    · cases h
      exact ⟨rfl, rfl⟩

/-- A condition changes neither the groups nor the names. -/
lemma enterCondition_names {i : Nat} (h : r.enterCondition i = .ok u) :
    u.groups = r.groups ∧ u.names = r.names := by
  rw [enterCondition] at h
  split at h
  · cases h
  · cases h
    exact ⟨rfl, rfl⟩

/-- A reference changes neither the groups nor the names. -/
lemma refer_names {i : Nat} (h : r.refer i = .ok u) :
    u.groups = r.groups ∧ u.names = r.names := by
  rw [refer] at h
  split_ifs at h
  cases h
  exact ⟨rfl, rfl⟩

/-- The end of a group changes neither the groups nor the names. -/
lemma close_names (h : r.close = .ok u) : u.groups = r.groups ∧ u.names = r.names := by
  rw [close] at h
  split at h
  · cases h
  · cases hexpr : r.exprOf with
    | error fault => rw [hexpr] at h; cases h
    | ok e =>
      rw [hexpr] at h
      cases h
      exact ⟨rfl, rfl⟩

/-- A loop changes neither the groups nor the names. -/
lemma repeatLatest_names {least : Nat} {most : Option Nat} {preference : Preference}
    (h : r.repeatLatest least most preference = .ok u) :
    u.groups = r.groups ∧ u.names = r.names := by
  unfold repeatLatest at h
  split at h
  · cases h
    exact ⟨rfl, rfl⟩
  · cases h
  · cases h

/-- A token adds the groups that it opens and the names that it gives, and nothing else. -/
theorem push_names (h : r.push k = .ok u) :
    u.groups = r.groups + k.captures ∧ u.names = k.named u.groups ++ r.names := by
  cases k with
  | nothing | item | anchor | dot | caret | dollar | bar =>
    cases h
    exact ⟨rfl, rfl⟩
  | closing => exact close_names h
  | reference i => exact refer_names h
  | namedReference name =>
    rw [push] at h
    split at h
    · cases h
    · exact refer_names h
  | loop least most preference => exact repeatLatest_names h
  | setFlags on =>
    rw [push] at h
    split at h
    · cases h
      exact ⟨rfl, rfl⟩
    · cases h
  | opening o =>
    cases o with
    | capture name => exact capture_names h
    | ifNumber i => exact enterCondition_names (r := { r with condition := max r.condition i }) h
    | ifName name =>
      rw [push, openGroup] at h
      split at h
      · cases h
      · exact enterCondition_names h
    | plain | atomic | ahead | notAhead | behind | notBehind | flags =>
      cases h
      exact ⟨rfl, rfl⟩

/-- A name that a token mentions is known afterwards. -/
lemma isSome_lookup_of_push {name : Text} (h : r.push k = .ok u) (hk : k.name? = some name) :
    (u.names.lookup name).isSome := by
  have hnames := (push_names h).2
  cases k with
  | namedReference other =>
    obtain rfl := Option.some.inj hk
    rw [push] at h
    split at h
    · cases h
    · rename_i i hi
      rw [hnames]
      show (r.names.lookup other).isSome
      rw [hi]
      rfl
  | opening o =>
    cases o with
    | capture given =>
      obtain rfl : given = some name := hk
      rw [hnames]
      show (((name, u.groups) :: r.names).lookup name).isSome
      rw [List.lookup_cons_self]
      rfl
    | ifName other =>
      obtain rfl := Option.some.inj hk
      rw [push, openGroup] at h
      split at h
      · cases h
      · rename_i i hi
        rw [hnames]
        show (r.names.lookup other).isSome
        rw [hi]
        rfl
    | _ => cases hk
  | _ => cases hk

/-- A name that is known stays known. -/
lemma isSome_lookup_push {name : Text} (h : r.push k = .ok u)
    (hname : (r.names.lookup name).isSome) : (u.names.lookup name).isSome := by
  rw [(push_names h).2, List.lookup_append, Option.isSome_or, hname, Bool.or_true]

section

variable (r) (names : List (Text × Nat))

@[simp]
lemma withNames_names : (r.withNames names).names = names := rfl

@[simp]
lemma withNames_frame : (r.withNames names).frame = r.frame := rfl

@[simp]
lemma withNames_outer : (r.withNames names).outer = r.outer := rfl

/-- A condition has the same effect whatever the names. -/
lemma enterCondition_withNames (i : Nat) :
    (r.withNames names).enterCondition i = (r.enterCondition i).map (·.withNames names) := by
  unfold enterCondition
  show (if !r.visibleBehind i then _ else _) = _
  split_ifs <;> rfl

/-- A reference has the same effect whatever the names. -/
lemma refer_withNames (i : Nat) :
    (r.withNames names).refer i = (r.refer i).map (·.withNames names) := by
  unfold refer
  show (if i = 0 || r.groups < i then _
    else if (r.closed.lookup i).isNone || !r.visibleBehind i then _ else _) = _
  split_ifs <;> rfl

/-- The end of a group has the same effect whatever the names. -/
lemma close_withNames : (r.withNames names).close = r.close.map (·.withNames names) := by
  rw [close, close, withNames_outer]
  cases r.outer with
  | nil => rfl
  | cons around outer =>
    show (r.exprOf.map _) = (r.exprOf.map _).map _
    cases r.exprOf with
    | error fault => rfl
    | ok e => rfl

/-- A loop has the same effect whatever the names. -/
lemma repeatLatest_withNames (least : Nat) (most : Option Nat) (preference : Preference) :
    (r.withNames names).repeatLatest least most preference =
      (r.repeatLatest least most preference).map (·.withNames names) := by
  rw [repeatLatest, repeatLatest, withNames_frame]
  cases r.frame.latest with
  | fixed => rfl
  | repeated => rfl
  | plain =>
    cases r.frame.items with
    | nil => rfl
    | cons e items => rfl

end

/-- **Names that are not mentioned do not matter.** If the name that a token mentions has the same
number among other names, the token has the same effect with those. -/
theorem push_withNames {names : List (Text × Nat)}
    (h : ∀ name, k.name? = some name → names.lookup name = r.names.lookup name) :
    (r.withNames names).push k =
      (r.push k).map fun u => u.withNames (k.named u.groups ++ names) := by
  cases k with
  | nothing | item | anchor | dot | caret | dollar | bar => rfl
  | closing => exact close_withNames r names
  | reference i => exact refer_withNames r names i
  | namedReference name =>
    rw [push, push, withNames_names, h name rfl]
    cases r.names.lookup name with
    | none => rfl
    | some i => exact refer_withNames r names i
  | loop least most preference => exact repeatLatest_withNames r names least most preference
  | setFlags on =>
    have hstart : (r.withNames names).atStart = r.atStart := rfl
    rw [push, push, hstart]
    split_ifs <;> rfl
  | opening o =>
    cases o with
    | plain | atomic | ahead | notAhead | behind | notBehind | flags => rfl
    | ifNumber i =>
      exact enterCondition_withNames { r with condition := max r.condition i } names i
    | ifName name =>
      rw [push, push, openGroup, openGroup, withNames_names, h name rfl]
      cases r.names.lookup name with
      | none => rfl
      | some i => exact enterCondition_withNames r names i
    | capture name =>
      cases name with
      | none => rfl
      | some name =>
        rw [push, push, openGroup, openGroup, capture, capture, withNames_names, h name rfl]
        split_ifs <;> rfl

end

/-! ## Every group has a name -/

/-- Every group that has been opened has a name, and no other number has one. -/
structure AllNamed (r : Reading) : Prop where
  named : ∀ i, 1 ≤ i → i ≤ r.groups → ∃ e ∈ r.names, e.2 = i
  known : ∀ e ∈ r.names, e.2 ≤ r.groups

/-- At first there is no group. -/
lemma allNamed_initial (fold : Bool) : (initial fold).AllNamed where
  named _ hpos hle := absurd (Nat.le_trans hpos hle) (Nat.not_succ_le_zero 0)
  known _ he := absurd he List.not_mem_nil

/-- Every group keeps a name unless one without a name is opened. -/
theorem AllNamed.push {r u : Reading} {k : Token} (hr : r.AllNamed)
    (hk : k ≠ .opening (.capture none)) (hu : r.push k = .ok u) : u.AllNamed := by
  obtain ⟨hgroups, hnames⟩ := push_names hu
  by_cases hcapture : ∃ name, k = .opening (.capture (some name))
  · obtain ⟨name, rfl⟩ := hcapture
    have hgroups : u.groups = r.groups + 1 := hgroups
    have hnames : u.names = (name, u.groups) :: r.names := hnames
    refine ⟨fun i hpos hle => ?_, fun e he => ?_⟩
    · rw [hnames]
      by_cases hi : i ≤ r.groups
      · obtain ⟨e, he, hei⟩ := hr.named i hpos hi
        exact ⟨e, List.mem_cons_of_mem _ he, hei⟩
      · have hi : u.groups = i := by omega
        exact ⟨(name, u.groups), List.mem_cons_self, hi⟩
    · rw [hnames] at he
      rcases List.mem_cons.mp he with rfl | he
      · exact Nat.le_refl _
      · have := hr.known e he
        omega
  · have hnone : k.captures = 0 ∧ k.named u.groups = [] := by
      cases k with
      | opening o =>
        cases o with
        | capture name =>
          cases name with
          | none => exact absurd rfl hk
          | some name => exact absurd ⟨name, rfl⟩ hcapture
        | _ => exact ⟨rfl, rfl⟩
      | _ => exact ⟨rfl, rfl⟩
    rw [hnone.1, Nat.add_zero] at hgroups
    rw [hnone.2, List.nil_append] at hnames
    exact ⟨hgroups ▸ hnames ▸ hr.named, hgroups ▸ hnames ▸ hr.known⟩

/-- A token gives names only to groups that it opens. -/
lemma lt_of_mem_named {r u : Reading} {k : Token} (hu : r.push k = .ok u) {e : Text × Nat}
    (he : e ∈ k.named u.groups) : r.groups < e.2 := by
  have hgroups := (push_names hu).1
  cases k with
  | opening o =>
    cases o with
    | capture name =>
      cases name with
      | none => exact absurd he List.not_mem_nil
      | some name =>
        have hgroups : u.groups = r.groups + 1 := hgroups
        obtain rfl := List.mem_singleton.mp he
        show r.groups < u.groups
        omega
    | _ => exact absurd he List.not_mem_nil
  | _ => exact absurd he List.not_mem_nil

end Reading

end DeclIndex.Pattern
