import DeclIndex.Proofs.Pattern.NameGroup
import DeclIndex.Proofs.Pattern.WrittenWords

/-!
# Where names stand in a written pattern

A group has a name because the name stands in the written pattern, between the start of a group and
a closing angle bracket. The same text may also stand where it opens no group: after a backslash, or
within a class. There it is read character by character or as members of the class, so that another
name in its place changes neither what follows nor which names groups have.

## Main definitions

* `Pattern.Reading.NamedAlike` — two states with the same groups and the same names.
* `Pattern.Groupless` — a text begins with tokens that open no group.

## Main results

* `Pattern.Reads.exists_opening` — every name stands in the text.
* `Pattern.Reads.exists_names_eq` — the first name is that of the first group.
* `Pattern.Hides.namedAlike` — a name after a backslash or in a class is the name of no group.
-/

namespace DeclIndex.Pattern

/-! ## The names of groups -/

/-- A text that begins with the opening of a named group begins with a parenthesis. -/
lemma namedOpening_append (name t : Text) :
    namedOpening name ++ t = '(' :: ("?P<".toList ++ (name ++ '>' :: t)) := by
  simp [namedOpening]

/-- **Every name stands in the text**, as the opening of a group with that name, and it is an
identifier. -/
theorem Reads.exists_opening [CharacterNames] {r u : Reading} {t : Text} (h : Reads r t u) :
    ∀ e ∈ u.names, e ∈ r.names ∨ (Text.isIdentifier e.1 ∧ namedOpening e.1 <:+: t) := by
  induction h with
  | done r => exact fun e he => .inl he
  | @step r s u c t rest k htoken hplain hpush hrest ih =>
    intro e he
    rcases ih e he with hs | ⟨hident, hinfix⟩
    · rw [(Reading.push_names hpush).2] at hs
      rcases k.named_eq s.groups with hnone | ⟨name, rfl, hone⟩
      · rw [hnone] at hs
        exact .inl hs
      · obtain ⟨rfl, rfl, hident⟩ := nextToken_eq_named htoken
        rw [hone] at hs
        rcases List.mem_cons.mp hs with rfl | hr
        · exact .inr ⟨hident, [], rest, namedOpening_append name rest⟩
        · exact .inl hr
    · have hsuffix := (suffix_of_nextToken htoken hplain).trans (List.suffix_cons c t)
      exact .inr ⟨hident, hinfix.trans hsuffix.isInfix⟩

/-- The latest name stands first, and all are names of groups. -/
def Reading.Descending (r : Reading) : Prop :=
  (r.names.Pairwise fun e f => f.2 < e.2) ∧ ∀ e ∈ r.names, 1 ≤ e.2 ∧ e.2 ≤ r.groups

/-- A token keeps the order of the names. -/
lemma Reading.Descending.push {r u : Reading} {k : Token} (h : r.Descending)
    (hu : r.push k = .ok u) : u.Descending := by
  obtain ⟨hgroups, hnames⟩ := push_names hu
  rcases k.named_eq u.groups with hnone | ⟨name, rfl, hone⟩
  · rw [hnone, List.nil_append] at hnames
    rw [Descending, hnames]
    exact ⟨h.1, fun e he => ⟨(h.2 e he).1, by have := h.2 e he; omega⟩⟩
  · have hgroups : u.groups = r.groups + 1 := hgroups
    rw [hone, List.singleton_append] at hnames
    rw [Descending, hnames]
    refine ⟨List.pairwise_cons.mpr ⟨fun e he => ?_, h.1⟩,
      List.forall_mem_cons.mpr ⟨⟨by omega, Nat.le_refl _⟩, fun e he => ?_⟩⟩
    · have := h.2 e he
      omega
    · have := h.2 e he
      omega

/-- Reading keeps the order of the names. -/
lemma Reads.descending [CharacterNames] {r u : Reading} {t : Text} (h : Reads r t u)
    (hr : r.Descending) :
    u.Descending := by
  induction h with
  | done r => exact hr
  | step _ _ hpush _ ih => exact ih (hr.push hpush)

/-- **The first name is that of the first group**, if every group has a name. -/
theorem Reads.exists_names_eq [CharacterNames] {fold : Bool} {t : Text} {u : Reading}
    (h : Reads (.initial fold) t u) (hu : u.AllNamed) (hgroups : 1 ≤ u.groups) :
    ∃ first more, u.names.reverse = (first, 1) :: more := by
  have hinitial : (Reading.initial fold).Descending :=
    ⟨List.Pairwise.nil, fun e he => absurd he List.not_mem_nil⟩
  obtain ⟨hsorted, hknown⟩ := h.descending hinitial
  obtain ⟨e, he, hone⟩ := hu.named 1 (Nat.le_refl 1) hgroups
  rw [← List.mem_reverse] at he
  have hascending := List.pairwise_reverse.mpr hsorted
  cases hnames : u.names.reverse with
  | nil =>
    rw [hnames] at he
    exact absurd he List.not_mem_nil
  | cons f more =>
    obtain ⟨first, i⟩ := f
    have hfirst := hknown (first, i) (by rw [← List.mem_reverse, hnames]; exact List.mem_cons_self)
    rw [hnames] at he hascending
    rcases List.mem_cons.mp he with rfl | he
    · exact ⟨first, more, by rw [← hone]⟩
    · have hlt : i < e.2 := (List.pairwise_cons.mp hascending).1 e he
      omega

/-! ## Texts that open no group -/

namespace Reading

/-- Two states have the same number of groups, and the same names for them. -/
structure NamedAlike (r s : Reading) : Prop where
  groups : s.groups = r.groups
  names : s.names = r.names

variable {r r' s s' : Reading} {k : Token}

/-- What is alike to a state that is alike. -/
lemma NamedAlike.trans (h : NamedAlike r r') (h' : NamedAlike r' s) : NamedAlike r s :=
  ⟨h'.groups.trans h.groups, h'.names.trans h.names⟩

/-- The same token gives the same names. -/
lemma NamedAlike.push (h : NamedAlike r r') (hs : r.push k = .ok s) (hs' : r'.push k = .ok s') :
    NamedAlike s s' := by
  obtain ⟨hgroups, hnames⟩ := push_names hs
  obtain ⟨hgroups', hnames'⟩ := push_names hs'
  have hsame : s'.groups = s.groups := by rw [hgroups', hgroups, h.groups]
  exact ⟨hsame, by rw [hnames', hnames, hsame, h.names]⟩

/-- A token that opens no group gives no name. -/
lemma namedAlike_of_push (hk : ∀ o, k ≠ .opening o) (hs : r.push k = .ok s) : NamedAlike r s := by
  obtain ⟨hgroups, hnames⟩ := push_names hs
  cases k with
  | opening o => exact absurd rfl (hk o)
  | _ => exact ⟨hgroups, hnames⟩

end Reading

open Reading (NamedAlike)

/-- Reading the same text gives the same names, if the names before it are the same. -/
lemma Reads.namedAlike [CharacterNames] {r u r' u' : Reading} {t : Text} {fuel : Nat}
    (h : Reads r t u) (hr' : r'.KeepsSpace) (hfuel : t.length ≤ fuel) (halike : NamedAlike r r')
    (h' : Reading.pushAll fuel r' t = .ok u') : NamedAlike u u' := by
  induction h generalizing r' fuel with
  | done r =>
    have hu' : u' = r' := by
      cases fuel <;> exact (Except.ok.inj h').symm
    exact hu' ▸ halike
  | @step r s u c t rest k htoken hplain hpush hrest ih =>
    obtain ⟨n, rfl, hle⟩ := Reading.exists_fuel hfuel
    obtain ⟨l, rest', s', htoken', hpush', hread⟩ := Reading.exists_of_pushAll hr' h'
    rw [htoken] at htoken'
    cases htoken'
    exact ih (hr'.push hplain hpush') ((suffix_of_nextToken htoken hplain).length_le.trans hle)
      (halike.push hpush hpush') hread

/-- A text begins with plain tokens that open no group, and `rest` follows. -/
inductive Groupless [CharacterNames] : Text → Text → Prop
  | nil (t : Text) : Groupless t t
  | step {c : Char} {t t' rest : Text} {k : Token} (htoken : nextToken false c t = .ok (k, t'))
      (hplain : k.isPlain) (hk : ∀ o, k ≠ .opening o) (hrest : Groupless t' rest) :
      Groupless (c :: t) rest

namespace Groupless

variable [CharacterNames] {t rest : Text} {r u : Reading}

/-- Reading comes to what follows, with the names that there were. -/
lemma reads (h : Groupless t rest) (hread : Reads r t u) :
    ∃ s, NamedAlike r s ∧ Reads s rest u := by
  induction h generalizing r with
  | nil t => exact ⟨r, ⟨rfl, rfl⟩, hread⟩
  | step htoken hplain hk hrest ih =>
    cases hread with
    | step htoken' hplain' hpush hlater =>
      rw [htoken] at htoken'
      cases htoken'
      obtain ⟨s, hs, hread⟩ := ih hlater
      exact ⟨s, (Reading.namedAlike_of_push hk hpush).trans hs, hread⟩

/-- The reader comes to what follows, with the names that there were. -/
lemma pushAll (h : Groupless t rest) (hr : r.KeepsSpace) {fuel : Nat} (hfuel : t.length ≤ fuel)
    (hread : Reading.pushAll fuel r t = .ok u) :
    ∃ n s, rest.length ≤ n ∧ s.KeepsSpace ∧ NamedAlike r s ∧
      Reading.pushAll n s rest = .ok u := by
  induction h generalizing r fuel with
  | nil t => exact ⟨fuel, r, hfuel, hr, ⟨rfl, rfl⟩, hread⟩
  | step htoken hplain hk hrest ih =>
    obtain ⟨n, rfl, hle⟩ := Reading.exists_fuel hfuel
    obtain ⟨l, rest', v, htoken', hpush, hlater⟩ := Reading.exists_of_pushAll hr hread
    rw [htoken] at htoken'
    cases htoken'
    obtain ⟨m, s, hm, hs, halike, hread⟩ := ih (hr.push hplain hpush)
      ((Reads.suffix_of_nextToken htoken hplain).length_le.trans hle) hlater
    exact ⟨m, s, hm, hs, (Reading.namedAlike_of_push hk hpush).trans halike, hread⟩

end Groupless

/-! ## Hidden names -/

/-- Characters that stand for themselves open no group. -/
lemma groupless_append [CharacterNames] {w t rest : Text} (hw : ∀ c ∈ w, c ∉ escaped)
    (h : Groupless t rest) : Groupless (w ++ t) rest := by
  induction w with
  | nil => exact h
  | cons c w ih =>
    obtain ⟨hc, hw⟩ := List.forall_mem_cons.mp hw
    exact .step (nextToken_ordinary hc _) rfl (by simp) (ih hw)

section

variable {name : Text} (hname : Text.isIdentifier name) (t : Text)

include hname

/-- What follows the parenthesis before a name opens no group if the parenthesis does not. -/
lemma groupless_name [CharacterNames] : Groupless ("?P<".toList ++ (name ++ '>' :: t)) t := by
  have hletters : ∀ c ∈ name, c ∉ escaped := by
    have hnone : escaped.all (fun d =>
        Text.opensIdentifier d == false && Text.continuesIdentifier d == false) = true := by decide
    intro c hc hmem
    have hboth := List.all_eq_true.mp hnone c hmem
    rw [Bool.and_eq_true, beq_iff_eq, beq_iff_eq] at hboth
    exact not_mem_of_isIdentifier hname hboth.1 hboth.2 hc
  have hclosing : Groupless ('>' :: t) t :=
    .step (nextToken_ordinary (by decide) t) rfl (by simp) (.nil t)
  have hstart : ∀ c ∈ "P<".toList, c ∉ escaped :=
    List.forall_mem_cons.mpr ⟨by decide, List.forall_mem_singleton.mpr (by decide)⟩
  have hopening : Groupless ("P<".toList ++ (name ++ '>' :: t)) t :=
    groupless_append hstart (groupless_append hletters hclosing)
  have hloop : nextToken false '?' ("P<".toList ++ (name ++ '>' :: t)) =
      .ok (.loop 0 (some 1) .greedy, "P<".toList ++ (name ++ '>' :: t)) := rfl
  exact .step hloop rfl (by simp) hopening

/-- Within a class, the name does not close it. -/
lemma afterBracket?_name :
    afterBracket? ("?P<".toList ++ (name ++ '>' :: t)) = afterBracket? t := by
  have hopening : Inside "?P<".toList :=
    .char (by decide) (.char (by decide) (.char (by decide) .nil))
  have hinside : Inside name := .of_forall fun c hc => isOrdinary_of_isIdentifier hname hc true
  rw [hopening.afterBracket?_append, hinside.afterBracket?_append]
  exact afterBracket?_cons (by decide) t

/-- After a backslash, the opening of a group opens none. -/
lemma groupless_escape [CharacterNames] : Groupless ('\\' :: (namedOpening name ++ t)) t := by
  rw [namedOpening_append]
  exact .step (nextToken_backslash (by decide) _) rfl (by simp) (groupless_name hname t)

/-- Nor does it in a class, which ends where it would end if it began after the name. -/
lemma groupless_class [CharacterNames] {w : Text}
    (hw : ∀ t, afterClass? (w ++ '(' :: t) = afterBracket? t) {k : Token} {rest : Text}
    (h : nextToken false '[' (w ++ (namedOpening name ++ t)) = .ok (k, rest)) :
    afterBracket? t = some rest ∧ Groupless ('[' :: (w ++ (namedOpening name ++ t))) rest := by
  have hclass : classToken (w ++ (namedOpening name ++ t)) = .ok (k, rest) := h
  obtain ⟨piece, hcut, -, hafter⟩ := exists_piece_of_classToken hclass
  refine ⟨?_, ?_⟩
  · have hrest := hafter rest
    rw [← hcut.split, namedOpening_append, hw, afterBracket?_name hname] at hrest
    exact hrest
  · obtain ⟨found, -, heq⟩ := map_eq_ok_iff.mp hclass
    cases heq
    exact .step h rfl (by simp) (.nil _)

end

/-- **A hidden name is the name of no group.** If reading goes on to the end with one name and with
another one at a hidden place, it gives the same groups with the same names.

**Proof sketch.** After a backslash, the parenthesis and the name are items. In a class, they are
members, and the class ends at the same bracket. What follows is the same text. -/
theorem Hides.namedAlike [CharacterNames] {z : Text} (hz : Hides z) {old new : Text}
    (hold : Text.isIdentifier old) (hnew : Text.isIdentifier new) {r u v : Reading} {t : Text}
    {fuel : Nat} (hr : r.KeepsSpace) (h : Reads r (z ++ (namedOpening old ++ t)) u)
    (hfuel : (z ++ (namedOpening new ++ t)).length ≤ fuel)
    (h' : Reading.pushAll fuel r (z ++ (namedOpening new ++ t)) = .ok v) : NamedAlike u v := by
  obtain ⟨rest, hrest, hrest'⟩ : ∃ rest,
      Groupless (z ++ (namedOpening old ++ t)) rest ∧
        Groupless (z ++ (namedOpening new ++ t)) rest := by
    rcases hz with rfl | ⟨w, rfl, hw⟩
    · exact ⟨t, groupless_escape hold t, groupless_escape hnew t⟩
    · obtain ⟨n, rfl, -⟩ := Reading.exists_fuel hfuel
      obtain ⟨k', rest', s', htoken', -⟩ := Reading.exists_of_pushAll hr h'
      obtain ⟨hafter', hrest'⟩ := groupless_class hnew t hw htoken'
      cases h with
      | step htoken _ _ _ =>
        obtain ⟨hafter, hrest⟩ := groupless_class hold t hw htoken
        obtain rfl := Option.some.inj (hafter.symm.trans hafter')
        exact ⟨_, hrest, hrest'⟩
  obtain ⟨s, hs, hread⟩ := hrest.reads h
  obtain ⟨n, s', hn, hspace, hs', hread'⟩ := hrest'.pushAll hr hfuel h'
  have halike : NamedAlike s s' := ⟨hs'.groups.trans hs.groups.symm, hs'.names.trans hs.names.symm⟩
  exact hread.namedAlike hspace hn halike hread'

end DeclIndex.Pattern
