import DeclIndex.Proofs.Pattern.Reads

/-!
# Reading with other names

The reader looks names up when a token mentions one, and adds to them when a group is given one. So
if the names that there are before a text is read are changed, reading goes on alike as long as the
tokens of the text mention none of those that changed.

Two such changes are made here. A name may be put among the others, if it is new: no token mentions
it, since a token that mentions a name makes it known. A name may take the place of another one, if
no token refers to the latter; the first token that does cannot be read any more.

## Main results

* `Pattern.Reads.withTail` — reading goes on alike with other names that are not mentioned.
* `Pattern.Reads.rename` — reading goes on alike with one more name.
* `Pattern.Reads.replace` — reading goes on alike with a name in the place of another one.
* `Pattern.Reads.pushAll_eq_error` — but it stops if the other one is referred to.
-/

namespace DeclIndex.Pattern

/-! ## Lists of names -/

/-- A name that is put among others does not change the numbers of the others. -/
lemma lookup_append_cons {name other : Text} (h : other ≠ name) (i : Nat)
    (later earlier : List (Text × Nat)) :
    (later ++ (name, i) :: earlier).lookup other = (later ++ earlier).lookup other := by
  have hbeq : (other == name) = false := by simpa using h
  rw [List.lookup_append, List.lookup_append, List.lookup_cons, hbeq]

/-- Whether a name is unknown does not depend on the order of the names. -/
lemma lookup_reverse_eq_none {name : Text} {names : List (Text × Nat)} :
    names.reverse.lookup name = none ↔ names.lookup name = none := by
  simp [List.lookup_eq_none_iff]

/-- A token gives no name but the one that it mentions. -/
lemma Token.lookup_named {k : Token} {name : Text} (h : k.name? ≠ some name) (i : Nat) :
    (k.named i).lookup name = none := by
  rcases k.named_eq i with hnone | ⟨other, rfl, hone⟩
  · rw [hnone]
    rfl
  · have hne : name ≠ other := fun heq => h (heq ▸ rfl)
    rw [hone]
    exact lookup_append_cons hne i [] []

/-! ## Tokens -/

/-- A plain token that can be read and does not refer to a name that is known does not mention it:
no second group may have it. -/
lemma Reading.name?_ne_some {r s : Reading} {k : Token} {name : Text} (hpush : r.push k = .ok s)
    (hk : k.isPlain) (hne : k ≠ .namedReference name) (hname : (r.names.lookup name).isSome) :
    k.name? ≠ some name := by
  intro hmention
  cases k with
  | namedReference other =>
    obtain rfl : other = name := Option.some.inj hmention
    exact hne rfl
  | opening o =>
    cases o with
    | capture given =>
      obtain rfl : given = some name := hmention
      rw [Reading.push, Reading.openGroup, Reading.capture, if_pos hname] at hpush
      cases hpush
    | ifName other => exact absurd hk Bool.false_ne_true
    | _ => cases hmention
  | _ => cases hmention

/-- A token has the same effect with other names at the end, if it mentions none that changed. -/
lemma Reading.push_withTail {r s : Reading} {k : Token} {later tail : List (Text × Nat)}
    (hpush : r.push k = .ok s) (hr : r.names = later ++ tail) (tail' : List (Text × Nat))
    (hsame : ∀ name, k.name? = some name → tail'.lookup name = tail.lookup name) :
    s.names = (k.named s.groups ++ later) ++ tail ∧
      (r.withNames (later ++ tail')).push k =
        .ok (s.withNames ((k.named s.groups ++ later) ++ tail')) := by
  refine ⟨by rw [(push_names hpush).2, hr, List.append_assoc], ?_⟩
  rw [push_withNames, hpush]
  · show Except.ok _ = Except.ok _
    rw [List.append_assoc]
  · intro name hname
    rw [hr, List.lookup_append, List.lookup_append, hsame name hname]

/-! ## Texts -/

namespace Reads

variable [CharacterNames] {r u : Reading} {t : Text} {fuel : Nat}
  {later tail : List (Text × Nat)}

/-- **Reading goes on alike with other names**, if no token mentions one that changed. -/
theorem withTail (h : Reads r t u) (hr : r.KeepsSpace) (hfuel : t.length ≤ fuel)
    (hnames : r.names = later ++ tail) (tail' : List (Text × Nat))
    (hsame : ∀ k ∈ r.tokens fuel t, ∀ name, k.name? = some name →
      tail'.lookup name = tail.lookup name) :
    ∃ later', u.names = later' ++ tail ∧
      Reads (r.withNames (later ++ tail')) t (u.withNames (later' ++ tail')) := by
  induction h generalizing fuel later with
  | done r => exact ⟨later, hnames, .done _⟩
  | @step r s u c t rest k htoken hplain hpush hrest ih =>
    obtain ⟨n, rfl, hle⟩ := Reading.exists_fuel hfuel
    rw [Reading.tokens_cons hr htoken hpush] at hsame
    obtain ⟨hk, hlater⟩ := List.forall_mem_cons.mp hsame
    obtain ⟨hs, hpush'⟩ := Reading.push_withTail hpush hnames tail' hk
    obtain ⟨later', hu, hread⟩ := ih (hr.push hplain hpush)
      ((suffix_of_nextToken htoken hplain).length_le.trans hle) hs hlater
    exact ⟨later', hu, .step htoken hplain hpush' hread⟩

/-- A name that a token mentions is known at the end. -/
lemma isSome_lookup_of_mem (h : Reads r t u) (hr : r.KeepsSpace) (hfuel : t.length ≤ fuel)
    {k : Token} (hk : k ∈ r.tokens fuel t) {name : Text} (hname : k.name? = some name) :
    (u.names.lookup name).isSome := by
  obtain ⟨-, s, v, hpush, -, hlater⟩ := h.exists_push_of_mem hr hfuel hk
  exact hlater name (Reading.isSome_lookup_of_push hpush hname)

/-- No token mentions a name that is unknown at the end. -/
lemma ne_of_mem (h : Reads r t u) (hr : r.KeepsSpace) (hfuel : t.length ≤ fuel) {new : Text}
    (hnew : u.names.lookup new = none) {k : Token} (hk : k ∈ r.tokens fuel t) {name : Text}
    (hname : k.name? = some name) : name ≠ new := by
  rintro rfl
  have hknown := h.isSome_lookup_of_mem hr hfuel hk hname
  rw [hnew] at hknown
  exact absurd hknown Bool.false_ne_true

/-- **Reading goes on alike with one more name**, if the name is unknown at the end. -/
theorem rename (h : Reads r t u) (hr : r.KeepsSpace) (hnames : r.names = tail) {new : Text}
    (hnew : u.names.lookup new = none) (i : Nat) :
    ∃ later, u.names = later ++ tail ∧
      Reads (r.withNames ((new, i) :: tail)) t (u.withNames (later ++ (new, i) :: tail)) := by
  have hempty : r.names = [] ++ tail := hnames
  refine h.withTail hr (Nat.le_refl _) hempty _ fun k hk name hname => ?_
  exact lookup_append_cons (h.ne_of_mem hr (Nat.le_refl _) hnew hk hname) i [] tail

section

variable {old new : Text} {i j : Nat} (hnew : u.names.lookup new = none)

include hnew

/-- **Reading goes on alike with a name in the place of another one**, if the name is unknown at the
end and no token refers to the other one. -/
theorem replace (h : Reads r t u) (hr : r.KeepsSpace) (hfuel : t.length ≤ fuel)
    (hnames : r.names = (old, i) :: tail) (hold : Token.namedReference old ∉ r.tokens fuel t) :
    ∃ later, u.names = later ++ (old, i) :: tail ∧
      Reads (r.withNames ((new, j) :: tail)) t (u.withNames (later ++ (new, j) :: tail)) := by
  have hempty : r.names = [] ++ (old, i) :: tail := hnames
  refine h.withTail hr hfuel hempty _ fun k hk name hname => ?_
  obtain ⟨hplain, s, v, hpush, hearlier, -⟩ := h.exists_push_of_mem hr hfuel hk
  have hknown : (r.names.lookup old).isSome := by
    rw [hnames, List.lookup_cons_self]
    rfl
  have hne : name ≠ old := by
    rintro rfl
    exact Reading.name?_ne_some hpush hplain (fun hk' => hold (hk' ▸ hk)) (hearlier _ hknown) hname
  exact (lookup_append_cons (h.ne_of_mem hr hfuel hnew hk hname) j [] tail).trans
    (lookup_append_cons hne i [] tail).symm

/-- **Reading stops if the other name is referred to**: the group is unknown by that name.

**Proof sketch.** By induction on the tokens read. Up to the first reference, reading goes on alike
with the name in the place of the other one, which no later group may have. -/
theorem pushAll_eq_error (h : Reads r t u) (hr : r.KeepsSpace) (hfuel : t.length ≤ fuel)
    (hnames : r.names = later ++ (old, i) :: tail) (hlater : later.lookup old = none)
    (htail : tail.lookup old = none) (hold : Token.namedReference old ∈ r.tokens fuel t)
    {fuel' : Nat} (hfuel' : t.length ≤ fuel') :
    Reading.pushAll fuel' (r.withNames (later ++ (new, j) :: tail)) t = .error .unknownGroup := by
  induction h generalizing fuel fuel' later with
  | done r =>
    have hnone : r.tokens fuel [] = [] := by cases fuel <;> rfl
    rw [hnone] at hold
    exact absurd hold List.not_mem_nil
  | @step r s u c t rest k htoken hplain hpush hrest ih =>
    have hwhole : Reads r (c :: t) u := .step htoken hplain hpush hrest
    have hlength := (suffix_of_nextToken htoken hplain).length_le
    obtain ⟨n, rfl, hle⟩ := Reading.exists_fuel hfuel
    obtain ⟨n', rfl, hle'⟩ := Reading.exists_fuel hfuel'
    have hknown : (r.names.lookup old).isSome := by
      rw [hnames, List.lookup_append, List.lookup_cons_self, Option.isSome_or]
      exact Bool.or_true _
    have hspace : (r.withNames (later ++ (new, j) :: tail)).KeepsSpace := hr.of_eq rfl rfl
    have hmem : k ∈ r.tokens (n + 1) (c :: t) := by
      rw [Reading.tokens_cons hr htoken hpush]
      exact List.mem_cons_self
    by_cases hk : k = .namedReference old
    · refine Reading.pushAll_eq_error hspace htoken ?_
      have hne := hwhole.ne_of_mem hr hfuel hnew hmem (hk ▸ rfl : k.name? = some old)
      have hunknown : (later ++ (new, j) :: tail).lookup old = none := by
        rw [lookup_append_cons hne, List.lookup_append, hlater, htail]
        rfl
      rw [hk, Reading.push, Reading.withNames_names, hunknown]
    · have hother := Reading.name?_ne_some hpush hplain hk hknown
      obtain ⟨hs, hpush'⟩ := Reading.push_withTail hpush hnames ((new, j) :: tail)
        fun name hname => by
          have hne : name ≠ old := fun heq => hother (heq ▸ hname)
          exact (lookup_append_cons (hwhole.ne_of_mem hr hfuel hnew hmem hname) j [] tail).trans
            (lookup_append_cons hne i [] tail).symm
      rw [Reading.tokens_cons hr htoken hpush] at hold
      rw [Reading.pushAll_cons hspace htoken hpush']
      have hlater' : (k.named s.groups ++ later).lookup old = none := by
        rw [List.lookup_append, Token.lookup_named hother, hlater]
        rfl
      exact ih hnew (hr.push hplain hpush) (hlength.trans hle) hs hlater'
        ((List.mem_cons.mp hold).resolve_left (Ne.symm hk)) (hlength.trans hle')

end

end Reads

end DeclIndex.Pattern
