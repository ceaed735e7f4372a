import DeclIndex.Pattern.Match
import DeclIndex.Proofs.Pattern.OtherNames
import DeclIndex.Proofs.Pattern.ReadsBefore

/-!
# The group of the name keeps the meaning of a pattern

A written pattern without a group called `name` has its first group without a name called so. This
is done by a scan that does not read the pattern. Here it is shown that the scan finds the right
parenthesis, that the renamed text is a pattern again, and that it is the same pattern except for
that one name.

The text before the parenthesis is made of tokens that are local, so it is read as before. From the
parenthesis on, the texts are the same and the states of the reader differ in one name; no token
mentions that name, since it would be unknown in the original pattern or be given there as well.

## Main definitions

* `Pattern.Unnamed`, `Pattern.FirstUnnamed` — a group without a name, and the first of them.
* `Pattern.WrittenPlainly` — a written pattern without comments, conditions and skipped white space.

## Main results

* `Pattern.Reads.exists_first` — the scan stops at the first group without a name.
* `Pattern.nameGroup_keeps_meaning` — what naming a group does to a pattern.
-/

namespace DeclIndex.Pattern

/-! ## The parenthesis -/

/-- The scan stops at a parenthesis without a question mark. -/
lemma nameFirstGroup?_of_head {t : Text} (h : t.head? ≠ some '?') :
    nameFirstGroup? false ('(' :: t) = some ("(?P<name>".toList ++ t) := by
  rcases t with _ | ⟨c, t⟩
  · rfl
  · have hc : c ≠ '?' := by simpa using h
    simp [nameFirstGroup?, hc]

/-- A group whose opening has a name is given that name. -/
lemma nextToken_named [CharacterNames] {name : Text} (hname : Text.isIdentifier name) (t : Text) :
    nextToken false '(' ("?P<".toList ++ (name ++ '>' :: t)) =
      .ok (.opening (.capture (some name)), t) := by
  have hstop : '>' ∉ name := not_mem_of_isIdentifier hname (by decide) (by decide)
  have huntil : nameUntil '>' (name ++ '>' :: t) = .ok (name, t) := by
    rw [nameUntil, untilChar?_append hstop]
    exact if_pos hname
  have hgroup : nextToken false '(' ("?P<".toList ++ (name ++ '>' :: t)) =
      (nameUntil '>' (name ++ '>' :: t)).map fun found =>
        (.opening (.capture (some found.1)), found.2) := rfl
  rw [hgroup, huntil]
  rfl

/-- **The scan finds the first group without a name.** Reading a text of plain tokens either gives
every group a name, and then the scan passes over the text, or it comes to a parenthesis at which
the scan stops too. Up to there every group has a name, and the text up to there is read alike
whatever follows the parenthesis.

**Proof sketch.** By induction on the tokens read. The scan passes over every token but the opening
of a group without a name, and a token is read alike if what follows it changes only beyond a
parenthesis that opens a later token. -/
theorem Reads.exists_first [CharacterNames] {r u : Reading} {t : Text} (h : Reads r t u)
    (hr : r.AllNamed) :
    (u.AllNamed ∧ Passes false t false) ∨
      ∃ before after s v, t = before ++ '(' :: after ∧ after.head? ≠ some '?' ∧
        ReadsBefore [] r before s ∧ s.push (.opening (.capture none)) = .ok v ∧
        Reads v after u := by
  induction h with
  | done r => exact .inl ⟨hr, .nil false⟩
  | @step r s u c t rest k htoken hplain hpush hrest ih =>
    by_cases hcapture : k = .opening (.capture none)
    · subst hcapture
      obtain ⟨rfl, rfl, hhead⟩ := nextToken_eq_capture htoken
      exact .inr ⟨[], t, r, s, rfl, hhead, .nil r, hpush, hrest⟩
    · obtain ⟨piece, hcut, hpiece⟩ := exists_piece_of_nextToken htoken hplain hcapture
      rcases ih (hr.push hcapture hpush) with ⟨hall, hpass⟩ | hfirst
      · exact .inl ⟨hall, by rw [hcut.split]; exact hpiece.passes.append hpass⟩
      · obtain ⟨before, after, s', v, rfl, hhead, hbefore, hv, hafter⟩ := hfirst
        refine .inr ⟨c :: (piece ++ before), after, s', v, ?_, hhead,
          .step hpiece (fun t' => ?_) hplain hcapture hpush hbefore, hv, hafter⟩
        · rw [hcut.split, List.cons_append, List.append_assoc]
        · exact hcut.again _ ((SameUpTo.here after t').append_left before)

/-! ## The patterns -/

/-- The group with number `i` has no name. -/
def Unnamed (p : Pattern) (i : Nat) : Prop :=
  1 ≤ i ∧ i ≤ p.groups ∧ ∀ e ∈ p.names, e.2 ≠ i

/-- The group with number `i` is the first one without a name. -/
def FirstUnnamed (p : Pattern) (i : Nat) : Prop :=
  p.Unnamed i ∧ ∀ j, p.Unnamed j → i ≤ j

/-- A written pattern has no comments and no conditions on groups, and nowhere in it is white space
skipped. -/
def WrittenPlainly [CharacterNames] (written : Text) : Prop :=
  ∀ k ∈ tokensOf false written, k.isPlain

instance [CharacterNames] (written : Text) : Decidable (WrittenPlainly written) :=
  inferInstanceAs (Decidable (∀ k ∈ tokensOf false written, k.isPlain))

/-- Names do not matter for where a pattern matches. -/
lemma find?_withNames (p : Pattern) (names : List (Text × Nat)) (line : Text) :
    ({ p with names } : Pattern).find? line = p.find? line := by
  have hfrom : ∀ t passed,
      ({ p with names } : Pattern).findFrom? passed t = p.findFrom? passed t := by
    intro t
    induction t with
    | nil => exact fun passed => rfl
    | cons c t ih =>
      intro passed
      rw [findFrom?, findFrom?, ih]
      rfl
  exact hfrom line []

/-- The pattern that has been read, with other names. -/
lemma finish_withNames {u : Reading} {p : Pattern} (h : u.finish = .ok p)
    (names : List (Text × Nat)) :
    p.names = u.names.reverse ∧ p.groups = u.groups ∧
      (u.withNames names).finish = .ok { p with names := names.reverse } := by
  unfold Reading.finish at h ⊢
  split at h
  · cases h
  · rename_i houter
    have houter' : (u.withNames names).outer = [] := houter
    split_ifs at h with hcondition hloop
    cases h
    rw [houter']
    exact ⟨rfl, rfl, (if_neg hcondition).trans (if_neg hloop)⟩

/-- The first group without a name is the one after those that have been opened before it, if they
all have one. -/
lemma firstUnnamed_of_allNamed {s u : Reading} {p : Pattern} {later : List (Text × Nat)}
    (hs : s.AllNamed) (hle : s.groups + 1 ≤ u.groups) (hu : u.names = later ++ s.names)
    (hlater : ∀ e ∈ later, s.groups + 1 < e.2) (hnames : p.names = u.names.reverse)
    (hgroups : p.groups = u.groups) : p.FirstUnnamed (s.groups + 1) := by
  refine ⟨⟨by omega, by omega, fun e he => ?_⟩, fun j hj => ?_⟩
  · rw [hnames, List.mem_reverse, hu] at he
    rcases List.mem_append.mp he with he | he
    · have := hlater e he
      omega
    · have := hs.known e he
      omega
  · by_contra hlt
    obtain ⟨e, he, hej⟩ := hs.named j hj.1 (by omega)
    refine hj.2.2 e ?_ hej
    rw [hnames, List.mem_reverse, hu]
    exact List.mem_append_right _ he

/-- A pattern all of whose groups have names has none without one. -/
lemma not_unnamed_of_allNamed {u : Reading} {p : Pattern} (hu : u.AllNamed)
    (hnames : p.names = u.names.reverse) (hgroups : p.groups = u.groups) (j : Nat) :
    ¬p.Unnamed j := by
  rintro ⟨hpos, hle, hnone⟩
  obtain ⟨e, he, hej⟩ := hu.named j hpos (hgroups ▸ hle)
  exact hnone e (by rw [hnames, List.mem_reverse]; exact he) hej

/-- If a pattern has groups, but none called `name`, the group that the scan comes to is named, or
else the first name that the pattern has is replaced. -/
lemma nameGroup_of_group? [CharacterNames] {written : Text} {p : Pattern}
    (hread : read false written = .ok p) (hname : p.group? "name" = none) (hgroups : 1 ≤ p.groups) :
    nameGroup written = (nameFirstGroup? false written).elim
      (p.names.head?.elim (.error .notFound) fun e =>
        .ok (Text.replaceFirst (namedOpening e.1) (namedOpening "name") written)) .ok := by
  have hsome : ¬(p.group? "name").isSome := by rw [hname]; exact Bool.false_ne_true
  have hzero : ¬p.groups = 0 := by omega
  unfold nameGroup
  rw [hread]
  dsimp only
  rw [if_neg hsome, if_neg hzero]
  cases nameFirstGroup? false written with
  | some renamed => rfl
  | none =>
    cases p.names with
    | nil => rfl
    | cons e names => rfl

/-- **Naming the group keeps the meaning of a pattern.** A pattern with a group called `name` is
left as it is. If there is none, but a group without a name, and the pattern is written plainly, one
parenthesis becomes the opening of a group called `name`. What results is a pattern with the same
groups and numbers, in which the first group without a name is called `name` (the group with number
1, if no group had a name) and all other names mean what they did. Wherever one of the two patterns
is found, the other is, with the same spans for all groups.

**Proof sketch.** Reading comes to the parenthesis at which the scan stops, and the text before it
is read alike whatever follows. There a group called `name` can be opened, since that name is new,
and reading goes on alike with one more name. Matching does not look at names. -/
theorem nameGroup_keeps_meaning [CharacterNames] {written : Text} {p : Pattern}
    (hread : read false written = .ok p) :
    ((p.group? "name").isSome → nameGroup written = .ok written) ∧
    (p.group? "name" = none → WrittenPlainly written → (∃ j, p.Unnamed j) →
      ∃ before after i q, written = before ++ '(' :: after ∧
        nameGroup written = .ok (before ++ ("(?P<name>".toList ++ after)) ∧
        read false (before ++ ("(?P<name>".toList ++ after)) = .ok q ∧
        p.FirstUnnamed i ∧ (p.names = [] → i = 1) ∧
        q.groups = p.groups ∧ q.body = p.body ∧ q.fold = p.fold ∧
        q.group? "name" = some i ∧
        (∀ other, other ≠ "name".toList → q.group? other = p.group? other) ∧
        ∀ line, q.find? line = p.find? line) := by
  refine ⟨fun hname => ?_, fun hname hplain hunnamed => ?_⟩
  · unfold nameGroup
    rw [hread]
    exact if_pos hname
  obtain ⟨u, hu, hfinish⟩ := Reads.of_read hplain hread
  obtain ⟨hnames, hgroups, -⟩ := finish_withNames hfinish []
  rcases hu.exists_first (Reading.allNamed_initial false) with ⟨hall, -⟩ | hfirst
  · obtain ⟨j, hj⟩ := hunnamed
    exact absurd hj (not_unnamed_of_allNamed hall hnames hgroups j)
  obtain ⟨before, after, s, v, hsplit, hhead, hbefore, hv, hafter⟩ := hfirst
  have hs := hbefore.allNamed (Reading.allNamed_initial false)
  have hspace := hbefore.keepsSpace (Reading.keepsSpace_initial false)
  have hscan : nameFirstGroup? false written = some (before ++ ("(?P<name>".toList ++ after)) := by
    rw [hsplit, hbefore.passes, nameFirstGroup?_of_head hhead]
    rfl
  have hv' := hspace.push rfl hv
  cases hv
  obtain ⟨hle, later, hlater, hlt⟩ := hafter.names
  have hlookup : u.names.lookup "name".toList = none := by
    rw [← lookup_reverse_eq_none, ← hnames]
    exact hname
  have hnew : s.names.lookup "name".toList = none := by
    rw [hlater, List.lookup_append, Option.or_eq_none_iff] at hlookup
    exact hlookup.2
  obtain ⟨later', hlater', hread'⟩ := hafter.rename hv' (rfl : _ = s.names) hlookup (s.groups + 1)
  have hopen : s.push (.opening (.capture (some "name".toList))) = .ok (Reading.withNames _ _) :=
    if_neg (by rw [hnew]; exact Bool.false_ne_true)
  have hrenamed := hbefore.reads (.step (nextToken_named (by decide) after) rfl hopen hread')
  obtain ⟨-, -, hfinish'⟩ :=
    finish_withNames hfinish (later' ++ ("name".toList, s.groups + 1) :: s.names)
  have hfirst := firstUnnamed_of_allNamed hs hle hlater hlt hnames hgroups
  refine ⟨before, after, s.groups + 1, _, hsplit, ?_, hrenamed.read hfinish', hfirst, ?_, rfl, rfl,
    rfl, ?_, ?_, find?_withNames p _⟩
  · rw [nameGroup_of_group? hread hname (Nat.le_trans hfirst.1.1 hfirst.1.2.1), hscan]
    rfl
  · intro hempty
    have hle := hfirst.2 1 ⟨Nat.le_refl 1, Nat.le_trans hfirst.1.1 hfirst.1.2.1, by simp [hempty]⟩
    exact Nat.le_antisymm hle hfirst.1.1
  · show (later' ++ ("name".toList, s.groups + 1) :: s.names).reverse.lookup "name".toList = _
    rw [List.reverse_append, List.reverse_cons, List.append_assoc, List.lookup_append,
      lookup_reverse_eq_none.mpr hnew, Option.none_or, List.singleton_append, List.lookup_cons_self]
  · intro other hother
    show (later' ++ ("name".toList, s.groups + 1) :: s.names).reverse.lookup other =
      p.names.lookup other
    rw [hnames, hlater', List.reverse_append, List.reverse_cons, List.append_assoc,
      List.singleton_append, lookup_append_cons hother, List.reverse_append]

/-- A class whose first member is a bracket, with a character by its name and a parenthesis. -/
theorem nameGroup_keeps_meaning_class :
    let _ : CharacterNames := .ofTable [("BULLET".toList, '•')]
    let written : Text := "[]\\N\x7bBullet\x7d(](?P<key>x)(y)"
    let p : Pattern := ⟨.cat (.set false [.char ']', .char '•', .char '('])
      (.cat (.group 1 (.char 'x')) (.group 2 (.char 'y'))), [("key".toList, 1)], 2, false⟩
    read false written = .ok p ∧
      ∃ before after i q, written = before ++ '(' :: after ∧
        nameGroup written = .ok (before ++ ("(?P<name>".toList ++ after)) ∧
        read false (before ++ ("(?P<name>".toList ++ after)) = .ok q ∧
        p.FirstUnnamed i ∧ (p.names = [] → i = 1) ∧
        q.groups = p.groups ∧ q.body = p.body ∧ q.fold = p.fold ∧ q.group? "name" = some i ∧
        (∀ other, other ≠ "name".toList → q.group? other = p.group? other) ∧
        ∀ line, q.find? line = p.find? line := by
  intro names written p
  have hread : read false written = .ok p := by decide +kernel
  have hunnamed : p.Unnamed 2 := by
    refine ⟨by decide, by decide, ?_⟩
    intro e he
    obtain rfl := List.mem_singleton.mp he
    decide
  have hname : p.group? "name" = none := by decide +kernel
  have hplain : WrittenPlainly written := by decide +kernel
  exact ⟨hread, (nameGroup_keeps_meaning hread).2 hname hplain ⟨2, hunnamed⟩⟩

end DeclIndex.Pattern
