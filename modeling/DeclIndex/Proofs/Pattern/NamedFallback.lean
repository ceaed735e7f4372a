import DeclIndex.Proofs.Pattern.NamedOpening

/-!
# The group of the name among groups with names

If every group of a pattern has a name, and none is called `name`, the first group is renamed by
replacing the text that opens it, wherever that text stands first in the written pattern. This
module says exactly when that does what is expected of it.

It does if that place is the opening of the group, and the old name is not referred to. If the text
stands after a backslash or in a class before, it is replaced there: the groups keep their names. If
the group is referred to by its old name, the reference is to an unknown group then, and the result
is no pattern.

## Main definitions

* `Pattern.StopsAfter` — a parenthesis after a text is neither escaped nor in a class.
* `Pattern.CallsFirst` — what is expected of a pattern with its first group renamed.

## Main results

* `Text.exists_replaceFirst` — the text of which the first place is replaced.
* `Pattern.nameGroup_of_allNamed` — what renaming the first group does.
* `Pattern.not_callsFirst_nameGroup` — it may miss the group.
-/

namespace DeclIndex

/-- A text that stands in another one is replaced where it stands first. -/
lemma Text.exists_replaceFirst {old t : Text} (h : old <:+: t) (new : Text) :
    ∃ before after, t = before ++ (old ++ after) ∧
      replaceFirst old new t = before ++ (new ++ after) ∧
      ∀ b a, t = b ++ (old ++ a) → before.length ≤ b.length := by
  induction t with
  | nil =>
    obtain rfl := List.infix_nil.mp h
    exact ⟨[], [], rfl, by simp [replaceFirst], fun _ _ _ => Nat.zero_le _⟩
  | cons c t ih =>
    by_cases hprefix : old.isPrefixOf (c :: t) = true
    · obtain ⟨after, hafter⟩ := List.isPrefixOf_iff_prefix.mp hprefix
      refine ⟨[], after, hafter.symm, ?_, fun _ _ _ => Nat.zero_le _⟩
      rw [replaceFirst, if_pos hprefix, ← hafter, List.drop_left]
      rfl
    · have hlater : old <:+: t := by
        rcases List.infix_cons_iff.mp h with hhere | hlater
        · exact absurd (List.isPrefixOf_iff_prefix.mpr hhere) hprefix
        · exact hlater
      obtain ⟨before, after, hsplit, hreplaced, hfirst⟩ := ih hlater
      refine ⟨c :: before, after, congrArg (c :: ·) hsplit, ?_, fun b a hb => ?_⟩
      · rw [replaceFirst, if_neg hprefix, hreplaced]
        rfl
      · rcases b with _ | ⟨d, b⟩
        · exact absurd (List.isPrefixOf_iff_prefix.mpr ⟨a, hb.symm⟩) hprefix
        · exact Nat.succ_le_succ (hfirst b a (List.cons.inj hb).2)

namespace Pattern

/-- The scan would stop at a parenthesis after the text: there it is neither escaped nor in a
class. -/
def StopsAfter (before : Text) : Prop :=
  nameFirstGroup? false (before ++ ['(']) = some (before ++ "(?P<name>".toList)

instance (before : Text) : Decidable (StopsAfter before) :=
  inferInstanceAs (Decidable (_ = _))

/-- A text writes a pattern whose first group is called `name`, and which is found wherever `p` is,
with the same spans for all groups. -/
def CallsFirst [CharacterNames] (p : Pattern) (renamed : Text) : Prop :=
  ∃ q, read false renamed = .ok q ∧ q.group? "name" = some 1 ∧ q.groups = p.groups ∧
    ∀ line, q.find? line = p.find? line

/-! ## Where the name stands -/

/-- Reading comes to a place at which the scan stops. -/
lemma ReadsBefore.stopsAfter [CharacterNames] {r m : Reading} {before : Text}
    (h : ReadsBefore [] r before m) : StopsAfter before := by
  have hparen : nameFirstGroup? false ['('] = some "(?P<name>".toList := rfl
  rw [StopsAfter, h.passes, hparen]
  rfl

/-- The scan does not stop at a place that is hidden. -/
lemma Hides.not_stopsAfter [CharacterNames] {z a : Text} {r m : Reading} (hz : Hides z)
    (h : ReadsBefore z r a m) : ¬StopsAfter (a ++ z) := by
  rw [StopsAfter, List.append_assoc, h.passes, hz.nameFirstGroup?]
  simp

/-- A pattern all of whose groups have names has been read to a state in which they have. -/
lemma allNamed_of_not_unnamed [CharacterNames] {u : Reading} {t : Text} {p : Pattern}
    (h : Reads (.initial false) t u) (hnames : p.names = u.names.reverse)
    (hgroups : p.groups = u.groups) (hall : ∀ i, ¬p.Unnamed i) :
    u.AllNamed ∧ nameFirstGroup? false t = none := by
  rcases h.exists_first (Reading.allNamed_initial false) with ⟨hu, hpass⟩ | hfirst
  · have hscan := hpass []
    rw [List.append_nil] at hscan
    exact ⟨hu, hscan⟩
  · obtain ⟨before, after, s, v, -, -, hbefore, hv, hafter⟩ := hfirst
    cases hv
    obtain ⟨hle, later, hlater, hlt⟩ := hafter.names
    have hs := hbefore.allNamed (Reading.allNamed_initial false)
    exact absurd (firstUnnamed_of_allNamed hs hle hlater hlt hnames hgroups).1 (hall _)

/-! ## The opening of a group -/

/-- A group with a new name may have any other new name. -/
lemma Reading.push_capture {r s : Reading} {name : Text}
    (h : r.push (.opening (.capture (some name))) = .ok s) :
    r.names.lookup name = none ∧ s.names = (name, r.groups + 1) :: r.names ∧
      ∀ other, r.names.lookup other = none →
        r.push (.opening (.capture (some other))) =
          .ok (s.withNames ((other, r.groups + 1) :: r.names)) := by
  rw [Reading.push, Reading.openGroup, Reading.capture] at h
  split at h
  · cases h
  · rename_i hname
    cases h
    refine ⟨Option.not_isSome_iff_eq_none.mp hname, rfl, fun other hother => ?_⟩
    exact if_neg (by rw [hother]; exact Bool.false_ne_true)

/-- What follows the opening of a named group is read after a group with that name is open. -/
lemma Reads.exists_of_named [CharacterNames] {r u : Reading} {name t : Text}
    (hname : Text.isIdentifier name)
    (h : Reads r (namedOpening name ++ t) u) :
    ∃ s, r.push (.opening (.capture (some name))) = .ok s ∧ Reads s t u := by
  rw [namedOpening_append] at h
  cases h with
  | step htoken hplain hpush hrest =>
    rw [nextToken_named hname] at htoken
    cases htoken
    exact ⟨_, hpush, hrest⟩

/-- The tokens that refer to a group stand after its opening. -/
lemma ReadsBefore.mem_tokens_iff [CharacterNames] {r m s : Reading} {before after name : Text}
    {fuel : Nat} (h : ReadsBefore [] r before m) (hr : r.KeepsSpace)
    (hname : Text.isIdentifier name)
    (hpush : m.push (.opening (.capture (some name))) = .ok s)
    (hfuel : (before ++ (namedOpening name ++ after)).length ≤ fuel) :
    ∃ n, after.length ≤ n ∧
      (Token.namedReference name ∈ r.tokens fuel (before ++ (namedOpening name ++ after)) ↔
        Token.namedReference name ∈ s.tokens n after) := by
  rw [namedOpening_append] at hfuel ⊢
  obtain ⟨earlier, hknown, hleads⟩ := h.pushAll hr
  obtain ⟨n, hn, -, htokens⟩ := hleads ("?P<".toList ++ (name ++ '>' :: after)) fuel hfuel
  obtain ⟨n, rfl, hle⟩ := Reading.exists_fuel hn
  have hmem : Token.namedReference name ∉ earlier := by
    intro hmem
    have hsome := hknown _ hmem name rfl
    rw [(Reading.push_capture hpush).1] at hsome
    exact absurd hsome Bool.false_ne_true
  refine ⟨n, ?_, ?_⟩
  · simp only [List.length_append, List.length_cons] at hle
    omega
  · rw [List.nil_append] at htokens
    rw [htokens, Reading.tokens_cons (h.keepsSpace hr) (nextToken_named hname after) hpush]
    simp [hmem]

/-! ## The outcome -/

section

variable {before after first : Text} {m u : Reading} {p : Pattern} {more : List (Text × Nat)}

/-- The first name is the one that is given where no name is known yet. -/
lemma eq_nil_of_first {later : List (Text × Nat)} {i : Nat} (hm : m.names.lookup first = none)
    (hu : u.names = later ++ (first, i) :: m.names)
    (hnames : u.names.reverse = (first, 1) :: more) :
    m.names = [] ∧ i = 1 ∧ later.reverse = more := by
  rw [hu, List.reverse_append, List.reverse_cons, List.append_assoc,
    List.singleton_append] at hnames
  rcases List.eq_nil_or_concat m.names with hnil | ⟨earlier, e, hconcat⟩
  · rw [hnil] at hnames
    obtain ⟨he, hmore⟩ := List.cons.inj hnames
    exact ⟨hnil, (Prod.mk.inj he).2, hmore⟩
  · rw [hconcat, List.concat_eq_append, List.reverse_append] at hnames
    obtain rfl : e = (first, 1) := (List.cons.inj hnames).1
    rw [← lookup_reverse_eq_none, hconcat, List.concat_eq_append, List.reverse_append] at hm
    exact absurd (List.lookup_cons_self.symm.trans hm) (by simp)

variable [CharacterNames]

/-- A name that no group has in the end has been free all along. -/
lemma lookup_eq_none_of_group? {t name : Text} (h : Reads m t u) (hfinish : u.finish = .ok p)
    (hname : p.group? name = none) : u.names.lookup name = none ∧ m.names.lookup name = none := by
  have hu : u.names.lookup name = none := by
    rw [← lookup_reverse_eq_none, ← (finish_withNames hfinish []).1]
    exact hname
  refine ⟨hu, ?_⟩
  by_contra hsome
  have hknown := h.isSome_lookup (Option.isSome_iff_ne_none.mpr hsome)
  exact absurd hu (Option.isSome_iff_ne_none.mp hknown)

/-- **Where the scan stops, the group gets its name**, if nothing refers to it by the old one. -/
lemma read_replaced (hbefore : ReadsBefore [] (.initial false) before m)
    (h : Reads m (namedOpening first ++ after) u) (hfinish : u.finish = .ok p)
    (hfirst : Text.isIdentifier first) (hnames : p.names = (first, 1) :: more)
    (hname : p.group? "name" = none)
    (hrefers : Token.namedReference first ∉
      tokensOf false (before ++ (namedOpening first ++ after))) :
    read false (before ++ (namedOpening "name" ++ after)) =
      .ok { p with names := ("name".toList, 1) :: more } := by
  have hspace := Reading.keepsSpace_initial false
  obtain ⟨hnew, hfree⟩ := lookup_eq_none_of_group? h hfinish hname
  obtain ⟨s, hpush, hafter⟩ := h.exists_of_named hfirst
  obtain ⟨hunknown, hs, hother⟩ := Reading.push_capture hpush
  obtain ⟨n, hn, hiff⟩ := hbefore.mem_tokens_iff hspace hfirst hpush (Nat.le_refl _)
  obtain ⟨later, hu, hread⟩ := hafter.replace hnew ((hbefore.keepsSpace hspace).push rfl hpush) hn
    hs (mt hiff.mpr hrefers)
  obtain ⟨hreverse, -, hfinish'⟩ :=
    finish_withNames hfinish (later ++ ("name".toList, m.groups + 1) :: m.names)
  obtain ⟨hnil, hone, hmore⟩ := eq_nil_of_first hunknown hu (hreverse.symm.trans hnames)
  have hreplaced : (later ++ ("name".toList, m.groups + 1) :: m.names).reverse =
      ("name".toList, 1) :: more := by
    rw [List.reverse_append, List.reverse_cons, hnil, hone, hmore]
    rfl
  rw [hreplaced] at hfinish'
  rw [namedOpening_append]
  have hrenamed := hbefore.reads
    (.step (nextToken_named (by decide) after) rfl (hother "name" hfree) hread)
  exact hrenamed.read hfinish'

/-- Where the scan stops, the result cannot be read if something refers to the group by its old
name. -/
lemma read_replaced_eq_error (hbefore : ReadsBefore [] (.initial false) before m)
    (h : Reads m (namedOpening first ++ after) u) (hfinish : u.finish = .ok p)
    (hfirst : Text.isIdentifier first) (hname : p.group? "name" = none)
    (hrefers : Token.namedReference first ∈
      tokensOf false (before ++ (namedOpening first ++ after))) :
    read false (before ++ (namedOpening "name" ++ after)) = .error .unknownGroup := by
  have hspace := Reading.keepsSpace_initial false
  obtain ⟨hnew, hfree⟩ := lookup_eq_none_of_group? h hfinish hname
  obtain ⟨s, hpush, hafter⟩ := h.exists_of_named hfirst
  obtain ⟨hunknown, hs, hother⟩ := Reading.push_capture hpush
  obtain ⟨n, hn, hiff⟩ := hbefore.mem_tokens_iff hspace hfirst hpush (Nat.le_refl _)
  obtain ⟨fuel, hfuel, hread⟩ :=
    hbefore.read_eq ("?P<".toList ++ ("name".toList ++ '>' :: after))
  obtain ⟨fuel, rfl, hle⟩ := Reading.exists_fuel hfuel
  have hle : after.length ≤ fuel := by
    simp only [List.length_append, List.length_cons] at hle
    omega
  have hs : s.names = [] ++ (first, m.groups + 1) :: m.names := hs
  have herror := hafter.pushAll_eq_error (j := m.groups + 1) hnew
    ((hbefore.keepsSpace hspace).push rfl hpush) hn hs rfl hunknown (hiff.mp hrefers) hle
  rw [List.nil_append] at hread herror
  rw [namedOpening_append, hread, Reading.pushAll_cons (hbefore.keepsSpace hspace)
    (nextToken_named (by decide) after) (hother "name" hfree), herror]
  rfl

/-- **Where the scan does not stop, no group gets another name.** -/
lemma names_eq_of_hides {z a : Text} {q : Pattern} (hz : Hides z)
    (hbefore : ReadsBefore z (.initial false) a m)
    (h : Reads m (z ++ (namedOpening first ++ after)) u) (hfinish : u.finish = .ok p)
    (hfirst : Text.isIdentifier first)
    (hread : read false (a ++ (z ++ (namedOpening "name" ++ after))) = .ok q) :
    q.names = p.names := by
  obtain ⟨n, hn, hread'⟩ := hbefore.read_eq ("?P<".toList ++ ("name".toList ++ '>' :: after))
  rw [← namedOpening_append] at hn hread'
  rw [hread'] at hread
  obtain ⟨v, hv, hq⟩ := bind_eq_ok_iff.mp hread
  have hspace := hbefore.keepsSpace (Reading.keepsSpace_initial false)
  have halike := hz.namedAlike hfirst (by decide) hspace h hn hv
  rw [(finish_withNames hq []).1, (finish_withNames hfinish []).1, halike.names]

/-- What is expected holds exactly if the name is replaced at the opening of the group, which
nothing refers to. -/
lemma callsFirst_iff {renamed : Text} {stops refers : Prop} (hname : p.group? "name" = none)
    (hreplaced : stops → ¬refers →
      read false renamed = .ok { p with names := ("name".toList, 1) :: p.names.tail })
    (herror : stops → refers → read false renamed = .error .unknownGroup)
    (hhidden : ¬stops → ∀ q, read false renamed = .ok q → q.names = p.names) :
    CallsFirst p renamed ↔ stops ∧ ¬refers := by
  constructor
  · rintro ⟨q, hread, hone, -⟩
    have hstops : stops := by
      by_contra hstops
      rw [Pattern.group?, hhidden hstops q hread] at hone
      exact absurd (hname.symm.trans hone) (by simp)
    refine ⟨hstops, fun hrefers => ?_⟩
    rw [herror hstops hrefers] at hread
    cases hread
  · rintro ⟨hstops, hrefers⟩
    exact ⟨_, hreplaced hstops hrefers, List.lookup_cons_self, rfl, find?_withNames p _⟩

end

/-- **What renaming the first group does.** Let every group of a pattern have a name, but none the
name `name`, and let the pattern be written plainly. The text that opens the first group is replaced
where it stands first. The result does what is expected of it exactly if the scan would stop at that
place and no token refers to the first group by its name. If the scan would stop there, the result
is the same pattern with `name` in the place of the first name, or it refers to an unknown group. If
the scan would not stop there, all groups of the result have the names that they had.

**Proof sketch.** Every name stands in the text where its group opens, so there is a place. Reading
comes to that place, and then the scan stops there, or to a backslash or a class that hides it. In
the first case it is the opening of the first group, since no other group has the name, and reading
goes on alike with the new name until the old one is referred to. In the second case the name is
read as characters or as members of the class. -/
theorem nameGroup_of_allNamed [CharacterNames] {written : Text} {p : Pattern}
    (hread : read false written = .ok p) (hplain : WrittenPlainly written)
    (hname : p.group? "name" = none) (hgroups : 1 ≤ p.groups) (hall : ∀ i, ¬p.Unnamed i) :
    ∃ first before after renamed, p.group? first = some 1 ∧
      written = before ++ (namedOpening first ++ after) ∧
      (∀ b a, written = b ++ (namedOpening first ++ a) → before.length ≤ b.length) ∧
      renamed = before ++ (namedOpening "name" ++ after) ∧ nameGroup written = .ok renamed ∧
      (CallsFirst p renamed ↔
        StopsAfter before ∧ Token.namedReference first ∉ tokensOf false written) ∧
      (StopsAfter before → Token.namedReference first ∉ tokensOf false written →
        read false renamed = .ok { p with names := ("name".toList, 1) :: p.names.tail }) ∧
      (StopsAfter before → Token.namedReference first ∈ tokensOf false written →
        read false renamed = .error .unknownGroup) ∧
      (¬StopsAfter before → ∀ q, read false renamed = .ok q → q.names = p.names) := by
  obtain ⟨u, hu, hfinish⟩ := Reads.of_read hplain hread
  obtain ⟨hnames, hcount, -⟩ := finish_withNames hfinish []
  obtain ⟨hnamed, hscan⟩ := allNamed_of_not_unnamed hu hnames hcount hall
  obtain ⟨first, more, hfirst⟩ := hu.exists_names_eq hnamed (hcount ▸ hgroups)
  rw [← hnames] at hfirst
  have hmem : (first, 1) ∈ u.names := by
    rw [← List.mem_reverse, ← hnames, hfirst]
    exact List.mem_cons_self
  obtain ⟨hident, hinfix⟩ := (hu.exists_opening _ hmem).resolve_left List.not_mem_nil
  obtain ⟨before, after, rfl, hreplaced, hleast⟩ :=
    Text.exists_replaceFirst hinfix (namedOpening "name")
  have hgroup : p.group? first = some 1 := by
    rw [Pattern.group?, hfirst, List.lookup_cons_self]
  have hrenames : nameGroup (before ++ (namedOpening first ++ after)) =
      .ok (before ++ (namedOpening "name" ++ after)) := by
    rw [nameGroup_of_group? hread hname hgroups, hscan, hfirst, ← hreplaced]
    rfl
  rw [namedOpening_append] at hu
  obtain ⟨a, z, m, rfl, hbefore, hreads, hz⟩ := hu.cut (Reading.allNamed_initial false) hnamed
  rw [← namedOpening_append] at hreads
  refine ⟨first, a ++ z, after, _, hgroup, rfl, hleast, rfl, hrenames, ?_⟩
  rcases hz with rfl | hz
  · simp only [List.append_nil, List.nil_append] at hreads ⊢
    have hnew := read_replaced hbefore hreads hfinish hident hfirst hname
    have herror := read_replaced_eq_error hbefore hreads hfinish hident hname
    have hstops := hbefore.stopsAfter
    have htail : more = p.names.tail := by rw [hfirst, List.tail_cons]
    rw [htail] at hnew
    have hhidden : ¬StopsAfter a → ∀ q,
        read false (a ++ (namedOpening "name" ++ after)) = .ok q → q.names = p.names :=
      fun h => absurd hstops h
    exact ⟨callsFirst_iff hname (fun _ => hnew) (fun _ => herror) hhidden, fun _ => hnew,
      fun _ => herror, hhidden⟩
  · have hstops := hz.not_stopsAfter hbefore
    have hhidden : ¬StopsAfter (a ++ z) → ∀ q,
        read false (a ++ z ++ (namedOpening "name" ++ after)) = .ok q → q.names = p.names := by
      intro _ q hq
      rw [List.append_assoc] at hq
      exact names_eq_of_hides hz hbefore hreads hfinish hident hq
    have hnone : ∀ {P : Prop}, StopsAfter (a ++ z) → P := fun h => absurd h hstops
    exact ⟨callsFirst_iff hname hnone hnone hhidden, hnone, hnone, hhidden⟩

/-- A pattern with one group, which has a name, has no group without one. -/
private lemma not_unnamed_of_single {p : Pattern} {name : Text} (hgroups : p.groups = 1)
    (hnames : p.names = [(name, 1)]) (i : Nat) : ¬p.Unnamed i := by
  rintro ⟨hpos, hle, hnone⟩
  have hone : 1 = i := by omega
  exact hnone (name, 1) (by rw [hnames]; exact List.mem_cons_self) hone

/-- The text of the name in a class after the group. -/
theorem nameGroup_of_allNamed_class :
    let _ : CharacterNames := .ofTable []
    let p : Pattern := ⟨.cat (.group 1 (.char 'a')) (.set false ("(?P<key>".toList.map .char)),
      [("key".toList, 1)], 1, false⟩
    read false "(?P<key>a)[(?P<key>]".toList = .ok p ∧
      ∃ renamed, nameGroup "(?P<key>a)[(?P<key>]" = .ok renamed ∧ CallsFirst p renamed := by
  intro names p
  have hread : read false "(?P<key>a)[(?P<key>]".toList = .ok p := by decide +kernel
  have hplain : WrittenPlainly "(?P<key>a)[(?P<key>]".toList := by decide +kernel
  have hname : p.group? "name" = none := by decide +kernel
  obtain ⟨first, before, after, renamed, hfirst, -, hleast, -, hrenamed, hcalls, -⟩ :=
    nameGroup_of_allNamed hread hplain hname (Nat.le_refl 1) (not_unnamed_of_single rfl rfl)
  refine ⟨hread, renamed, hrenamed, hcalls.mpr ?_⟩
  obtain rfl : first = "key".toList := by
    by_contra hne
    have hnone : p.group? first = none := lookup_append_cons hne 1 [] []
    exact absurd (hnone.symm.trans hfirst) (by simp)
  obtain rfl : before = [] := by
    have hle := hleast [] "a)[(?P<key>]".toList (by decide)
    exact List.length_eq_zero_iff.mp (Nat.le_zero.mp hle)
  exact ⟨by decide, by decide +kernel⟩

/-- **Naming the group may miss it**: with the text of the name in a class before the group, it is
replaced there, and the group keeps its name. -/
theorem not_callsFirst_nameGroup :
    ¬∀ [CharacterNames] (written : Text) (p : Pattern), read false written = .ok p →
      WrittenPlainly written → p.group? "name" = none → 1 ≤ p.groups → (∀ i, ¬p.Unnamed i) →
      ∃ renamed, nameGroup written = .ok renamed ∧ CallsFirst p renamed := by
  intro h
  let _ : CharacterNames := .ofTable []
  let p : Pattern := ⟨.cat (.set false ("(?P<x>".toList.map .char)) (.group 1 (.char 'a')),
    [("x".toList, 1)], 1, false⟩
  let missed : Pattern := ⟨.cat (.set false ("(?P<name>".toList.map .char)) (.group 1 (.char 'a')),
    [("x".toList, 1)], 1, false⟩
  have hread : read false "[(?P<x>](?P<x>a)".toList = .ok p := by decide +kernel
  have hplain : WrittenPlainly "[(?P<x>](?P<x>a)".toList := by decide +kernel
  have hname : p.group? "name" = none := by decide +kernel
  have hmissed : read false "[(?P<name>](?P<x>a)".toList = .ok missed := by decide +kernel
  have hgroup : nameGroup "[(?P<x>](?P<x>a)" = .ok "[(?P<name>](?P<x>a)".toList := by decide +kernel
  obtain ⟨renamed, hrenamed, q, hq, hone, -⟩ :=
    h _ p hread hplain hname (Nat.le_refl 1) (not_unnamed_of_single rfl rfl)
  cases hgroup.symm.trans hrenamed
  cases hmissed.symm.trans hq
  exact absurd hone (by decide +kernel)

/-- A group that is referred to by its name. -/
example :
    let _ : CharacterNames := .ofTable []
    nameGroup "(?P<x>a)(?P=x)" = .ok "(?P<name>a)(?P=x)".toList ∧
    read false "(?P<name>a)(?P=x)".toList = .error .unknownGroup := by
  decide +kernel

end Pattern

end DeclIndex
