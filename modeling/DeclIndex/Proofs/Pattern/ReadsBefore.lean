import DeclIndex.Proofs.Pattern.Reads

/-!
# Reading up to a parenthesis

A change to a written pattern beyond an opening parenthesis does not change how the text before it
is read, as far as that text is cut into tokens before the parenthesis is reached. This module
states that as a relation between two states, and shows how far reading comes before any
parenthesis: it comes to the parenthesis, or to an escape or a class in which the parenthesis
stands.

## Main definitions

* `Pattern.ReadsBefore` — reading the text before a parenthesis leads from one state to another.
* `Pattern.Hides` — a backslash, or the start of a class, before a parenthesis.

## Main results

* `Pattern.ReadsBefore.reads`, `Pattern.ReadsBefore.pushAll`, `Pattern.ReadsBefore.read_eq` — this
  is what the reader does, whatever follows the parenthesis.
* `Pattern.Reads.cut` — how far reading comes before a parenthesis.
-/

namespace DeclIndex.Pattern

/-- Reading a text that is made of plain tokens leads from `r` to `m`, if the text is followed by
`z` and a parenthesis, and whatever comes after that. No token is the opening of a group without a
name. -/
inductive ReadsBefore [CharacterNames] (z : Text) : Reading → Text → Reading → Prop
  | nil (r : Reading) : ReadsBefore z r [] r
  | step {r s m : Reading} {c : Char} {piece a : Text} {k : Token} (hpiece : IsPiece c piece)
      (htoken : ∀ t, nextToken false c (piece ++ (a ++ (z ++ '(' :: t))) =
        .ok (k, a ++ (z ++ '(' :: t)))
      (hplain : k.isPlain) (hne : k ≠ .opening (.capture none)) (hpush : r.push k = .ok s)
      (hrest : ReadsBefore z s a m) : ReadsBefore z r (c :: (piece ++ a)) m

namespace ReadsBefore

variable [CharacterNames] {z a : Text} {r m u : Reading}

/-- The scan passes over the text. -/
lemma passes (h : ReadsBefore z r a m) : Passes false a false := by
  induction h with
  | nil r => exact .nil false
  | step hpiece _ _ _ _ _ ih => exact hpiece.passes.append ih

/-- Every group keeps a name. -/
lemma allNamed (h : ReadsBefore z r a m) (hr : r.AllNamed) : m.AllNamed := by
  induction h with
  | nil r => exact hr
  | step _ _ _ hne hpush _ ih => exact ih (hr.push hne hpush)

/-- White space stays text. -/
lemma keepsSpace (h : ReadsBefore z r a m) (hr : r.KeepsSpace) : m.KeepsSpace := by
  induction h with
  | nil r => exact hr
  | step _ _ hplain _ hpush _ ih => exact ih (hr.push hplain hpush)

/-- What is read after the text is read after all. -/
lemma reads (h : ReadsBefore z r a m) {t : Text} (hm : Reads m (z ++ '(' :: t) u) :
    Reads r (a ++ (z ++ '(' :: t)) u := by
  induction h with
  | nil r => exact hm
  | step _ htoken hplain _ hpush _ ih =>
    rw [List.cons_append, List.append_assoc]
    exact .step (htoken t) hplain hpush (ih hm)

/-- The names that there are stay. -/
lemma isSome_lookup (h : ReadsBefore z r a m) {name : Text} (hname : (r.names.lookup name).isSome) :
    (m.names.lookup name).isSome := by
  induction h with
  | nil r => exact hname
  | step _ _ _ _ hpush _ ih => exact ih (Reading.isSome_lookup_push hpush hname)

/-- **The reader comes to what follows the text**, whatever it is, with some tokens that mention no
name but those known then. -/
theorem pushAll (h : ReadsBefore z r a m) (hr : r.KeepsSpace) :
    ∃ earlier : List Token,
      (∀ k ∈ earlier, ∀ name, k.name? = some name → (m.names.lookup name).isSome) ∧
      ∀ (t : Text) (fuel : Nat), (a ++ (z ++ '(' :: t)).length ≤ fuel →
        ∃ n, (z ++ '(' :: t).length ≤ n ∧
          Reading.pushAll fuel r (a ++ (z ++ '(' :: t)) = Reading.pushAll n m (z ++ '(' :: t) ∧
          r.tokens fuel (a ++ (z ++ '(' :: t)) = earlier ++ m.tokens n (z ++ '(' :: t) := by
  induction h with
  | nil r => exact ⟨[], by simp, fun t fuel hfuel => ⟨fuel, hfuel, rfl, rfl⟩⟩
  | @step r s m c piece a k hpiece htoken hplain hne hpush hrest ih =>
    obtain ⟨earlier, hknown, hleads⟩ := ih (hr.push hplain hpush)
    refine ⟨k :: earlier, List.forall_mem_cons.mpr ⟨fun name hname => ?_, hknown⟩, ?_⟩
    · exact hrest.isSome_lookup (Reading.isSome_lookup_of_push hpush hname)
    · intro t fuel hfuel
      rw [List.cons_append, List.append_assoc] at hfuel ⊢
      obtain ⟨fuel, rfl, hle⟩ := Reading.exists_fuel hfuel
      rw [List.length_append] at hle
      obtain ⟨n, hn, hread, htokens⟩ := hleads t fuel (by omega)
      rw [Reading.pushAll_cons hr (htoken t) hpush, Reading.tokens_cons hr (htoken t) hpush]
      exact ⟨n, hn, hread, congrArg (k :: ·) htokens⟩

/-- A pattern that begins with the text is read on from what follows. -/
lemma read_eq {fold : Bool} (h : ReadsBefore z (.initial fold) a m) (t : Text) :
    ∃ n, (z ++ '(' :: t).length ≤ n ∧ read fold (a ++ (z ++ '(' :: t)) =
      Reading.pushAll n m (z ++ '(' :: t) >>= Reading.finish := by
  obtain ⟨earlier, -, hleads⟩ := h.pushAll (Reading.keepsSpace_initial fold)
  obtain ⟨n, hn, hread, -⟩ := hleads t _ (Nat.le_refl _)
  refine ⟨n, hn, ?_⟩
  rw [read, hread]
  cases Reading.pushAll n m (z ++ '(' :: t) <;> rfl

end ReadsBefore

/-- A group without a name stays without one. -/
lemma Reads.not_allNamed [CharacterNames] {r s u : Reading} {t : Text} (h : Reads s t u)
    (hr : r.AllNamed) (hpush : r.push (.opening (.capture none)) = .ok s) : ¬u.AllNamed := by
  intro hu
  obtain ⟨hgroups, hnames⟩ := Reading.push_names hpush
  have hgroups : s.groups = r.groups + 1 := hgroups
  have hnames : s.names = r.names := hnames
  obtain ⟨hle, later, hlater, hlt⟩ := h.names
  obtain ⟨e, he, hnumber⟩ := hu.named (r.groups + 1) (by omega) (by omega)
  rw [hlater, hnames] at he
  rcases List.mem_append.mp he with he | he
  · have := hlt e he
    omega
  · have := hr.known e he
    omega

/-- A text that hides a parenthesis after it: a backslash, or the start of a class that is not
closed. -/
def Hides (z : Text) : Prop :=
  z = ['\\'] ∨ ∃ w, z = '[' :: w ∧ ∀ t, afterClass? (w ++ '(' :: t) = afterBracket? t

/-- The scan does not stop at a hidden parenthesis. -/
lemma Hides.nameFirstGroup? {z : Text} (h : Hides z) :
    Pattern.nameFirstGroup? false (z ++ ['(']) = none := by
  rcases h with rfl | ⟨w, rfl, hclass⟩
  · rfl
  · exact nameFirstGroup?_of_afterClass? (hclass [])

/-- **How far reading comes before a parenthesis.** If every group of a pattern has a name, reading
comes to a parenthesis in its text, or to what hides it.

**Proof sketch.** By induction on the tokens read. The piece that a token takes ends before the
parenthesis, unless the token is an escape or a class. -/
theorem Reads.cut [CharacterNames] {r u : Reading} {a s : Text}
    (h : Reads r (a ++ '(' :: s) u) (hr : r.AllNamed) (hu : u.AllNamed) :
    ∃ a₁ z m, a = a₁ ++ z ∧ ReadsBefore z r a₁ m ∧ Reads m (z ++ '(' :: s) u ∧
      (z = [] ∨ Hides z) := by
  generalize htext : a ++ '(' :: s = text at h
  induction h generalizing a with
  | done r => simp at htext
  | @step r s' u c t rest k htoken hplain hpush hrest ih =>
    have hwhole : Reads r (a ++ '(' :: s) u := htext ▸ .step htoken hplain hpush hrest
    rcases a with _ | ⟨d, a⟩
    · exact ⟨[], [], r, rfl, .nil r, hwhole, .inl rfl⟩
    obtain ⟨rfl, rfl⟩ := List.cons.inj htext
    have hne : k ≠ .opening (.capture none) := by
      rintro rfl
      exact hrest.not_allNamed hr hpush hu
    obtain ⟨piece, hcut, hpiece⟩ := exists_piece_of_nextToken htoken hplain hne
    rcases hpiece.cut hcut.split.symm with ⟨a', rfl, rfl⟩ | ⟨rfl, rfl⟩ | ⟨rfl, hclass⟩
    · obtain ⟨a₁, z, m, rfl, hbefore, hreads, hz⟩ := ih (hr.push hne hpush) hu rfl
      refine ⟨d :: (piece ++ a₁), z, m, by simp,
        .step hpiece (fun t => ?_) hplain hne hpush hbefore, hreads, hz⟩
      refine hcut.again _ ?_
      rw [List.append_assoc]
      exact ((SameUpTo.here s t).append_left z).append_left a₁
    · exact ⟨[], ['\\'], r, rfl, .nil r, hwhole, .inr (.inl rfl)⟩
    · exact ⟨[], '[' :: a, r, rfl, .nil r, hwhole, .inr (.inr ⟨a, rfl, hclass⟩)⟩

end DeclIndex.Pattern
