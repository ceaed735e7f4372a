import DeclIndex.Proofs.Pattern.Names
import DeclIndex.Proofs.Pattern.TokenPiece

/-!
# Reading as a relation

The reader takes its tokens from the text one by one, and how it cuts the text depends on the flags
in force. For a text that uses plain tokens only, white space is never skipped, so the tokens are
cut the same way throughout. Reading is then a relation between two states and a text, which can be
reasoned about by induction and which does not mention the bound on the number of tokens.

## Main definitions

* `Pattern.tokensOf` — the tokens of a written pattern, as the reader cuts them.
* `Pattern.Reads` — reading a text made of plain tokens leads from one state to another.

## Main results

* `Pattern.Reads.of_pushAll`, `Pattern.Reads.pushAll` — this is what the reader does.
* `Pattern.Reads.names` — how reading changes the names and the number of groups.
-/

namespace DeclIndex.Pattern

namespace Reading

/-- The tokens that the reader takes from a text; `fuel` bounds their number. -/
def tokens [CharacterNames] : Nat → Reading → Text → List Token
  | _, _, [] => []
  | 0, _, _ :: _ => []
  | fuel + 1, r, c :: rest =>
    match nextToken r.frame.flags.spaced c rest with
    | .error _ => []
    | .ok (token, rest) =>
      match r.push token with
      | .error _ => [token]
      | .ok r => token :: tokens fuel r rest

/-- White space is read as it stands in every open group. -/
structure KeepsSpace (r : Reading) : Prop where
  inner : r.frame.flags.spaced = false
  outer : ∀ f ∈ r.outer, f.flags.spaced = false

/-- At first white space is read as it stands. -/
lemma keepsSpace_initial (fold : Bool) : (initial fold).KeepsSpace where
  inner := rfl
  outer _ hf := absurd hf List.not_mem_nil

/-- Flags other than `x` do not make white space be skipped. -/
lemma spaced_set {f : Flags} {on : List Char} (hf : f.spaced = false) (hon : !on.contains 'x')
    (off : List Char) : (f.set on off).spaced = false := by
  have hon : on.contains 'x' = false := by simpa using hon
  show ((f.spaced || on.contains 'x') && !off.contains 'x') = false
  rw [hf, hon]
  rfl

namespace KeepsSpace

variable {r u : Reading} {k : Token}

/-- A group that is opened keeps white space if its flags say so. -/
lemma enter (hr : r.KeepsSpace) (shape : Shape) {flags : Flags} (hflags : flags.spaced = false) :
    (r.enter shape flags).KeepsSpace where
  inner := hflags
  outer := List.forall_mem_cons.mpr ⟨hr.inner, hr.outer⟩

/-- Only the flags of the open groups matter. -/
lemma of_eq (hr : r.KeepsSpace) (hinner : u.frame.flags = r.frame.flags)
    (houter : u.outer = r.outer) : u.KeepsSpace where
  inner := hinner ▸ hr.inner
  outer := houter ▸ hr.outer

/-- The end of a group leads back to the flags of the group around it. -/
lemma close (hr : r.KeepsSpace) (hu : r.close = .ok u) : u.KeepsSpace := by
  unfold Reading.close at hu
  split at hu
  · cases hu
  · rename_i around outer houter
    obtain ⟨e, -, heq⟩ := map_eq_ok_iff.mp hu
    obtain ⟨haround, hrest⟩ := List.forall_mem_cons.mp (houter ▸ hr.outer)
    cases heq
    exact ⟨haround, hrest⟩

/-- **White space stays text.** Plain tokens do not make white space be skipped. -/
theorem push (hr : r.KeepsSpace) (hk : k.isPlain) (hu : r.push k = .ok u) : u.KeepsSpace := by
  have hrefer : ∀ i, r.refer i = .ok u → u.KeepsSpace := by
    intro i h
    unfold refer at h
    split_ifs at h
    cases h
    exact hr.of_eq rfl rfl
  cases k with
  | nothing => exact absurd hk (by decide)
  | item | anchor | dot | caret | dollar | bar =>
    cases hu
    exact hr.of_eq rfl rfl
  | closing => exact hr.close hu
  | reference i => exact hrefer i hu
  | namedReference name =>
    rw [Reading.push] at hu
    split at hu
    · cases hu
    · exact hrefer _ hu
  | loop least most preference =>
    rw [Reading.push] at hu
    unfold repeatLatest at hu
    split at hu
    · cases hu
      exact hr.of_eq rfl rfl
    · cases hu
    · cases hu
  | setFlags on =>
    rw [Reading.push] at hu
    split at hu
    · cases hu
      exact ⟨spaced_set hr.inner hk [], hr.outer⟩
    · cases hu
  | opening o =>
    cases o with
    | ifNumber i => exact absurd hk Bool.false_ne_true
    | ifName name => exact absurd hk Bool.false_ne_true
    | plain | atomic | ahead | notAhead =>
      cases hu
      exact hr.enter _ hr.inner
    | behind | notBehind =>
      cases hu
      exact (hr.enter _ hr.inner).of_eq rfl rfl
    | flags on off =>
      cases hu
      exact hr.enter _ (spaced_set hr.inner hk off)
    | capture name =>
      have hopened : ({ r with groups := r.groups + 1 } : Reading).KeepsSpace := hr.of_eq rfl rfl
      cases name with
      | none =>
        cases hu
        exact hopened.enter _ hr.inner
      | some name =>
        rw [Reading.push, openGroup, capture] at hu
        split at hu
        · cases hu
        · cases hu
          exact (hopened.enter _ hr.inner).of_eq rfl rfl

end KeepsSpace

/-! ## One token after the other -/

/-- As many tokens as there are characters are at least one. -/
lemma exists_fuel {c : Char} {t : Text} {fuel : Nat}
    (h : (c :: t).length ≤ fuel) : ∃ n, fuel = n + 1 ∧ t.length ≤ n := by
  rw [List.length_cons] at h
  exact ⟨fuel - 1, by omega, by omega⟩

section

variable [CharacterNames] {r s u : Reading} {c : Char} {t rest : Text} {k : Token} {fuel : Nat}

/-- The reader goes on after a token with the rest of the text. -/
lemma pushAll_cons (hr : r.KeepsSpace) (htoken : nextToken false c t = .ok (k, rest))
    (hpush : r.push k = .ok s) : pushAll (fuel + 1) r (c :: t) = pushAll fuel s rest := by
  rw [pushAll, hr.inner, htoken]
  dsimp only
  rw [hpush]

/-- The reader stops at a token that has no place. -/
lemma pushAll_eq_error (hr : r.KeepsSpace) (htoken : nextToken false c t = .ok (k, rest))
    {fault : Fault} (hpush : r.push k = .error fault) :
    pushAll (fuel + 1) r (c :: t) = .error fault := by
  rw [pushAll, hr.inner, htoken]
  dsimp only
  rw [hpush]

/-- The first token and those of the rest. -/
lemma tokens_cons (hr : r.KeepsSpace) (htoken : nextToken false c t = .ok (k, rest))
    (hpush : r.push k = .ok s) : r.tokens (fuel + 1) (c :: t) = k :: s.tokens fuel rest := by
  rw [tokens, hr.inner, htoken]
  dsimp only
  rw [hpush]

/-- A text that is read has a first token. -/
lemma exists_of_pushAll (hr : r.KeepsSpace) (h : pushAll (fuel + 1) r (c :: t) = .ok u) :
    ∃ k rest s, nextToken false c t = .ok (k, rest) ∧ r.push k = .ok s ∧
      pushAll fuel s rest = .ok u := by
  rw [pushAll, hr.inner] at h
  cases htoken : nextToken false c t with
  | error fault => rw [htoken] at h; cases h
  | ok found =>
    obtain ⟨k, rest⟩ := found
    rw [htoken] at h
    dsimp only at h
    cases hpush : r.push k with
    | error fault => rw [hpush] at h; cases h
    | ok s =>
      rw [hpush] at h
      exact ⟨k, rest, s, rfl, hpush, h⟩

end

end Reading

/-- The tokens of a written pattern. -/
def tokensOf [CharacterNames] (fold : Bool) (written : Text) : List Token :=
  (Reading.initial fold).tokens written.length written

/-! ## The relation -/

/-- Reading a text that is made of plain tokens, white space included, leads from `r` to `u`. -/
inductive Reads [CharacterNames] : Reading → Text → Reading → Prop
  | done (r : Reading) : Reads r [] r
  | step {r s u : Reading} {c : Char} {t rest : Text} {k : Token}
      (htoken : nextToken false c t = .ok (k, rest)) (hplain : k.isPlain)
      (hpush : r.push k = .ok s) (hrest : Reads s rest u) : Reads r (c :: t) u

namespace Reads

variable [CharacterNames] {r s u : Reading} {t : Text}

/-- What a plain token leaves is the end of the text. -/
lemma suffix_of_nextToken {c : Char} {t rest : Text} {k : Token}
    (h : nextToken false c t = .ok (k, rest)) (hk : k.isPlain) : rest <:+ t := by
  by_cases hcapture : k = .opening (.capture none)
  · obtain ⟨-, rfl, -⟩ := nextToken_eq_capture (hcapture ▸ h)
    exact List.suffix_refl _
  · obtain ⟨piece, hcut, -⟩ := exists_piece_of_nextToken h hk hcapture
    exact ⟨piece, hcut.split.symm⟩

/-- The reader reads a text of plain tokens to its end if it may take as many tokens as there are
characters. -/
theorem pushAll (h : Reads r t u) (hr : r.KeepsSpace) {fuel : Nat} (hfuel : t.length ≤ fuel) :
    Reading.pushAll fuel r t = .ok u := by
  induction h generalizing fuel with
  | done r =>
    cases fuel with
    | zero => rfl
    | succ fuel => rfl
  | @step r s u c t rest k htoken hplain hpush _ ih =>
    obtain ⟨n, rfl, hle⟩ := Reading.exists_fuel hfuel
    rw [Reading.pushAll_cons hr htoken hpush]
    exact ih (hr.push hplain hpush) ((suffix_of_nextToken htoken hplain).length_le.trans hle)

/-- What the reader does with a text that is made of plain tokens. -/
theorem of_pushAll {fuel : Nat} (hr : r.KeepsSpace) (hfuel : t.length ≤ fuel)
    (hplain : ∀ k ∈ r.tokens fuel t, k.isPlain) (h : Reading.pushAll fuel r t = .ok u) :
    Reads r t u := by
  induction fuel generalizing r t with
  | zero =>
    obtain rfl := List.length_eq_zero_iff.mp (Nat.le_zero.mp hfuel)
    cases h
    exact .done _
  | succ fuel ih =>
    cases t with
    | nil =>
      cases h
      exact .done _
    | cons c t =>
      obtain ⟨k, rest, s, htoken, hpush, h⟩ := Reading.exists_of_pushAll hr h
      rw [Reading.tokens_cons hr htoken hpush] at hplain
      obtain ⟨hk, hrest⟩ := List.forall_mem_cons.mp hplain
      have hlen := (suffix_of_nextToken htoken hk).length_le.trans (Nat.le_of_succ_le_succ hfuel)
      exact .step htoken hk hpush (ih (hr.push hk hpush) hlen hrest h)

/-- A written pattern that can be read and is made of plain tokens. -/
theorem of_read {fold : Bool} {p : Pattern} (hplain : ∀ k ∈ tokensOf fold t, k.isPlain)
    (h : read fold t = .ok p) : ∃ u, Reads (.initial fold) t u ∧ u.finish = .ok p := by
  unfold read at h
  split at h
  · cases h
  · rename_i u hu
    exact ⟨u, of_pushAll (Reading.keepsSpace_initial fold) (Nat.le_refl _) hplain hu, h⟩

/-- Reading as a relation says what pattern a text writes. -/
theorem read {fold : Bool} {p : Pattern} (h : Reads (.initial fold) t u)
    (hfinish : u.finish = .ok p) : Pattern.read fold t = .ok p := by
  unfold Pattern.read
  rw [h.pushAll (Reading.keepsSpace_initial fold) (Nat.le_refl _)]
  exact hfinish

/-- A name that is known stays known. -/
lemma isSome_lookup (h : Reads r t u) {name : Text} (hname : (r.names.lookup name).isSome) :
    (u.names.lookup name).isSome := by
  induction h with
  | done r => exact hname
  | step _ _ hpush _ ih => exact ih (Reading.isSome_lookup_push hpush hname)

/-- Every token is read in some state, and of the names in that state no earlier one is missing and
none gets lost. -/
theorem exists_push_of_mem (h : Reads r t u) (hr : r.KeepsSpace) {fuel : Nat}
    (hfuel : t.length ≤ fuel) {k : Token} (hk : k ∈ r.tokens fuel t) :
    k.isPlain ∧ ∃ s v : Reading, s.push k = .ok v ∧
      (∀ name, (r.names.lookup name).isSome → (s.names.lookup name).isSome) ∧
      ∀ name, (v.names.lookup name).isSome → (u.names.lookup name).isSome := by
  induction h generalizing fuel with
  | done r =>
    have hnone : r.tokens fuel [] = [] := by cases fuel <;> rfl
    rw [hnone] at hk
    exact absurd hk List.not_mem_nil
  | @step r s u c t rest l htoken hplain hpush hrest ih =>
    obtain ⟨n, rfl, hle⟩ := Reading.exists_fuel hfuel
    rw [Reading.tokens_cons hr htoken hpush] at hk
    rcases List.mem_cons.mp hk with rfl | hk
    · exact ⟨hplain, r, s, hpush, fun _ hname => hname, fun _ hname => hrest.isSome_lookup hname⟩
    · obtain ⟨hk, m, v, hv, hearlier, hlater⟩ := ih (hr.push hplain hpush)
        ((suffix_of_nextToken htoken hplain).length_le.trans hle) hk
      exact ⟨hk, m, v, hv, fun name hname =>
        hearlier name (Reading.isSome_lookup_push hpush hname), hlater⟩

/-- **Numbers only grow.** Reading adds names before those that there are, and it gives them to
groups that are opened meanwhile. -/
theorem names (h : Reads r t u) :
    r.groups ≤ u.groups ∧ ∃ later, u.names = later ++ r.names ∧ ∀ e ∈ later, r.groups < e.2 := by
  induction h with
  | done r => exact ⟨Nat.le_refl _, [], rfl, by simp⟩
  | @step r s u c t rest k _ _ hpush _ ih =>
    obtain ⟨hgroups, hnames⟩ := Reading.push_names hpush
    obtain ⟨hle, later, hlater, hlt⟩ := ih
    refine ⟨by omega, later ++ k.named s.groups, ?_, fun e he => ?_⟩
    · rw [hlater, hnames, List.append_assoc]
    · rcases List.mem_append.mp he with he | he
      · have := hlt e he
        omega
      · exact Reading.lt_of_mem_named hpush he

end Reads

end DeclIndex.Pattern
