import DeclIndex.Proofs.Pattern.Piece

/-!
# Classes as pieces of a written pattern

A class is the one place where an opening parenthesis has no meaning although no backslash stands
before it. The scan has to see where the class ends. It skips escapes and knows that a closing
bracket at the start is a member, and nothing else about classes; in particular it does not know
ranges. That is enough, since neither end of a range is a closing bracket unless it is escaped.

## Main definitions

* `Pattern.Inside` — a text that may stand between the brackets of a class.
* `Pattern.afterClass?` — what follows the bracket that closes a class.
* `Pattern.classTail` — the members of a class from what follows an atom on.
* `Pattern.EndsClass` — the rest of a class is taken off the start of a text.

## Main results

* `Pattern.exists_inner_of_classMembers` — the members of a class after its first one.
* `Pattern.afterClass?_cut` — a parenthesis in a class makes no difference for where the class ends.
* `Pattern.exists_piece_of_classToken` — classes are passed, and they are local.
-/

namespace DeclIndex.Pattern

/-! ## Where a class ends -/

/-- What follows the bracket that closes a class, for a text that begins within the class. -/
def afterBracket? : Text → Option Text
  | [] => none
  | ['\\'] => none
  | '\\' :: _ :: rest => afterBracket? rest
  | ']' :: rest => some rest
  | _ :: rest => afterBracket? rest

/-- What follows a class, for a text that begins after its opening bracket. A closing bracket there
is a member. -/
def afterClass? : Text → Option Text
  | '^' :: ']' :: rest | ']' :: rest => afterBracket? rest
  | t => afterBracket? t

/-- Text that does not close the class in which it stands. -/
inductive Inside : Text → Prop
  | nil : Inside []
  | char {c : Char} {t : Text} (hc : isOrdinary true c) (ht : Inside t) : Inside (c :: t)
  | escape (c : Char) {t : Text} (ht : Inside t) : Inside ('\\' :: c :: t)

/-- A character without meaning within a class is skipped. -/
lemma afterBracket?_cons {c : Char} (hc : isOrdinary true c) (t : Text) :
    afterBracket? (c :: t) = afterBracket? t := by
  have hne : c ≠ '\\' ∧ c ≠ ']' := by simpa [isOrdinary] using hc
  exact afterBracket?.eq_5 c t (fun h _ => hne.1 h) (fun _ _ h _ => hne.1 h) hne.2

/-- What is no escape and no closing bracket is skipped. -/
lemma isOrdinary_of_skipped {c : Char} {rest : Text} (hlast : c = '\\' → rest = [] → False)
    (hescape : ∀ d rest', c = '\\' → rest = d :: rest' → False) (hbracket : c = ']' → False) :
    isOrdinary true c := by
  have hback : c ≠ '\\' := by
    intro hc
    cases rest with
    | nil => exact hlast hc rfl
    | cons d rest => exact hescape d rest hc rfl
  simpa [isOrdinary] using ⟨hback, hbracket⟩

namespace Inside

variable {s t : Text}

/-- Two such texts may stand one after the other. -/
lemma append (hs : Inside s) (ht : Inside t) : Inside (s ++ t) := by
  induction hs with
  | nil => exact ht
  | char hc _ ih => exact .char hc ih
  | escape c _ ih => exact .escape c ih

/-- Text without meaning within a class. -/
lemma of_forall (h : ∀ c ∈ t, isOrdinary true c) : Inside t := by
  induction t with
  | nil => exact .nil
  | cons c t ih =>
    exact .char (h c List.mem_cons_self) (ih fun d hd => h d (List.mem_cons_of_mem c hd))

/-- The scan passes over it. -/
lemma passes (h : Inside t) : Passes true t true := by
  induction h with
  | nil => exact .nil true
  | char hc _ ih => exact .cons hc ih
  | escape c _ ih => exact (Passes.escape true c).append ih

/-- The bracket that closes the class comes later. -/
lemma afterBracket?_append (h : Inside t) (s : Text) :
    afterBracket? (t ++ s) = afterBracket? s := by
  induction h with
  | nil => rfl
  | char hc _ ih => exact (afterBracket?_cons hc _).trans ih
  | escape c _ ih => exact ih

/-- The closing bracket after it closes the class. -/
lemma afterBracket?_bracket (h : Inside t) (s : Text) :
    afterBracket? (t ++ [']'] ++ s) = some s := by
  rw [List.append_assoc, h.afterBracket?_append]
  rfl

end Inside

/-- A text closes the class in which it begins, or it does not and then a parenthesis after it
stands in the class too. -/
lemma afterBracket?_cut (a : Text) :
    (∃ a', ∀ s, afterBracket? (a ++ s) = some (a' ++ s)) ∨
      ∀ s, afterBracket? (a ++ '(' :: s) = afterBracket? s := by
  fun_induction afterBracket? a with
  | case1 => exact .inr fun s => rfl
  | case2 => exact .inr fun s => rfl
  | case3 c rest ih => exact ih
  | case4 rest => exact .inl ⟨rest, fun s => rfl⟩
  | case5 c rest hlast hescape hbracket ih =>
    have hc := isOrdinary_of_skipped hlast hescape hbracket
    rcases ih with ⟨a', h⟩ | h
    · exact .inl ⟨a', fun s => (afterBracket?_cons hc _).trans (h s)⟩
    · exact .inr fun s => (afterBracket?_cons hc _).trans (h s)

/-- A class begins with a member. -/
lemma afterClass?_cons {c : Char} (hcaret : c ≠ '^') (hc : c ≠ ']') (t : Text) :
    afterClass? (c :: t) = afterBracket? (c :: t) := by
  simp [afterClass?, hcaret, hc]

/-- An inverted class begins with a member after the caret. -/
lemma afterClass?_caret {c : Char} (hc : c ≠ ']') (t : Text) :
    afterClass? ('^' :: c :: t) = afterBracket? (c :: t) := by
  simp [afterClass?, afterBracket?, hc]

/-- **A text closes a class or a parenthesis after it stands in the class too**, for a text that
begins after the opening bracket. -/
lemma afterClass?_cut (a : Text) :
    (∃ a', ∀ s, afterClass? (a ++ s) = some (a' ++ s)) ∨
      ∀ s, afterClass? (a ++ '(' :: s) = afterBracket? s := by
  rcases a with _ | ⟨c, a⟩
  · exact .inr fun s => rfl
  by_cases hc : c = ']'
  · subst hc
    exact afterBracket?_cut a
  by_cases hcaret : c = '^'
  · subst hcaret
    rcases a with _ | ⟨d, a⟩
    · exact .inr fun s => rfl
    by_cases hd : d = ']'
    · subst hd
      exact afterBracket?_cut a
    · have hcut := afterBracket?_cut (d :: a)
      simp only [List.cons_append, ← afterClass?_caret hd] at hcut
      exact hcut
  · have hcut := afterBracket?_cut (c :: a)
    simp only [List.cons_append, ← afterClass?_cons hcaret hc] at hcut
    exact hcut

/-- The scan does not stop within a class. -/
lemma nameFirstGroup?_of_afterBracket? {t : Text} (h : afterBracket? t = none) :
    nameFirstGroup? true t = none := by
  fun_induction afterBracket? t with
  | case1 => rfl
  | case2 => rfl
  | case3 c rest ih =>
    rw [nameFirstGroup?, ih h]
    rfl
  | case4 rest => cases h
  | case5 c rest hlast hescape hbracket ih =>
    have hpass := Passes.singleton (isOrdinary_of_skipped hlast hescape hbracket) rest
    rw [ih h] at hpass
    exact hpass

/-- The scan does not stop after a bracket that opens a class which is not closed. -/
lemma nameFirstGroup?_of_afterClass? {t : Text} (h : afterClass? t = none) :
    nameFirstGroup? false ('[' :: t) = none := by
  have hmap : ∀ (u : Text) (f : Text → Text), afterBracket? u = none →
      (nameFirstGroup? true u).map f = none := by
    intro u f hu
    rw [nameFirstGroup?_of_afterBracket? hu]
    rfl
  rcases t with _ | ⟨c, t⟩
  · rfl
  by_cases hc : c = ']'
  · subst hc
    exact hmap t _ h
  by_cases hcaret : c = '^'
  · subst hcaret
    rcases t with _ | ⟨d, t⟩
    · rfl
    by_cases hd : d = ']'
    · subst hd
      exact hmap t _ h
    · rw [nameFirstGroup?_inverted hd]
      exact hmap _ _ ((afterClass?_caret hd t).symm.trans h)
  · rw [nameFirstGroup?_class hcaret hc]
    exact hmap _ _ ((afterClass?_cons hcaret hc t).symm.trans h)

/-! ## Atoms -/

section

variable [CharacterNames]

/-- An escape inside a class is text within the class, and it is read alike whatever follows the
class. -/
lemma exists_piece_of_escapeInClass {t rest : Text} {x : ClassAtom}
    (h : escapeInClass t = .ok (x, rest)) :
    ∃ piece, t = piece ++ rest ∧ Inside ('\\' :: piece) ∧
      ∀ s, SameUpTo ']' rest s → escapeInClass (piece ++ s) = .ok (x, s) := by
  have hinside : ∀ c piece, (∀ d ∈ piece, ∀ a, isOrdinary a d) → Inside ('\\' :: c :: piece) :=
    fun c piece hpiece => .escape c (.of_forall fun d hd => hpiece d hd true)
  have hnil : ∀ d ∈ ([] : Text), ∀ a, isOrdinary a d := by simp
  cases t with
  | nil => cases h
  | cons c t =>
    rw [escapeInClass] at h
    split at h
    · rename_i m hm
      cases h
      exact ⟨[c], rfl, hinside c [] hnil, fun s _ => by simp [escapeInClass, hm]⟩
    · rename_i hm
      split_ifs at h with hb hoctal
      · cases h
        exact ⟨[c], rfl, hinside c [] hnil, fun s _ => by subst hb; rfl⟩
      · dsimp only at h
        split_ifs at h with hcode
        cases h
        obtain ⟨hpiece, ht, hs⟩ := takeWhile_isOctal_take ']' (by decide) (t := t) rfl
        refine ⟨c :: (t.take 2).takeWhile isOctal, congrArg (c :: ·) ht, hinside c _ hpiece,
          fun s hrest => ?_⟩
        have hagain := hs s hrest
        rw [List.cons_append, escapeInClass, hm]
        simp [hb, hoctal, hagain, hcode]
      · obtain ⟨code, hcode, heq⟩ := map_eq_ok_iff.mp h
        cases heq
        obtain ⟨piece, hpiece, ht, hs⟩ := exists_piece_of_codeOfEscape hcode
        refine ⟨c :: piece, congrArg (c :: ·) ht, hinside c piece hpiece, fun s _ => ?_⟩
        rw [List.cons_append, escapeInClass, hm]
        simp [hb, hoctal, hs s, Except.map]

/-- What a class goes on with is text within the class, unless it is a closing bracket, and it is
read alike whatever follows the class. -/
lemma exists_piece_of_classAtom {c : Char} {t rest : Text} {x : ClassAtom}
    (h : classAtom c t = .ok (x, rest)) :
    ∃ piece, t = piece ++ rest ∧ (c = ']' → piece = []) ∧
      (c ≠ ']' → Inside (c :: piece)) ∧
      ∀ s, SameUpTo ']' rest s → classAtom c (piece ++ s) = .ok (x, s) := by
  rw [classAtom] at h
  split_ifs at h with hc
  · subst hc
    obtain ⟨piece, ht, hinside, hs⟩ := exists_piece_of_escapeInClass h
    refine ⟨piece, ht, fun hne => absurd hne (by decide), fun _ => hinside, fun s hrest => ?_⟩
    rw [classAtom, if_pos rfl]
    exact hs s hrest
  · cases h
    refine ⟨[], rfl, fun _ => rfl, fun hne => .char ?_ .nil, fun s _ => ?_⟩
    · simp [isOrdinary, hc, hne]
    · rw [classAtom, if_neg hc, List.nil_append]

/-! ## Members -/

/-- The members of a class from what follows an atom on: the atom may be one end of a range. -/
def classTail (fuel : Nat) (atom : ClassAtom) : Text → Except Fault (List Member × Text)
  | '-' :: ']' :: rest => .ok (atom.members ++ [.char '-'], rest)
  | ['-'] => .error .openClass
  | '-' :: d :: rest =>
    match classAtom d rest with
    | .error fault => .error fault
    | .ok (last, rest) =>
      match rangeOf atom last, classMembers fuel false rest with
      | .error fault, _ => .error fault
      | _, .error fault => .error fault
      | .ok members, .ok (more, rest) => .ok (members ++ more, rest)
  | rest => (classMembers fuel false rest).map fun (more, rest) => (atom.members ++ more, rest)

/-- A class goes on with its end, or with an atom and what follows it. -/
lemma classMembers_cons (fuel : Nat) (fresh : Bool) (c : Char) (t : Text) :
    classMembers (fuel + 1) fresh (c :: t) =
      if c = ']' && !fresh then .ok ([], t)
      else
        match classAtom c t with
        | .error fault => .error fault
        | .ok (atom, rest) => classTail fuel atom rest := by
  rw [classMembers]
  split_ifs with hend
  · rfl
  · split
    · rename_i fault hatom
      rw [hatom]
    · rename_i atom rest hatom
      rw [hatom]
      rfl
    · rename_i atom hatom
      rw [hatom]
      rfl
    · rename_i atom d rest hend hatom
      rw [hatom]
      exact (classTail.eq_3 fuel atom d rest hend).symm
    · rename_i atom rest h₁ h₂ h₃ hatom
      rw [hatom]
      exact (classTail.eq_4 fuel atom rest h₁ h₂ h₃).symm

/-- An atom that no hyphen follows is a member. -/
lemma classTail_cons (fuel : Nat) (atom : ClassAtom) {d : Char} (hd : d ≠ '-') (t : Text) :
    classTail fuel atom (d :: t) =
      (classMembers fuel false (d :: t)).map fun (more, rest) => (atom.members ++ more, rest) := by
  refine classTail.eq_4 fuel atom (d :: t) ?_ ?_ ?_
  · intro u h
    exact hd (List.cons.inj h).1
  · intro h
    exact hd (List.cons.inj h).1
  · intro e u h
    exact hd (List.cons.inj h).1

/-- `f` takes off the rest of a class, which ends with the bracket after `inner`, and it gives `x`.
It does so whatever follows the class, as long as it may take enough rounds. -/
structure EndsClass {α : Type} (f : Nat → Text → Except Fault (α × Text)) (t : Text) (x : α)
    (inner rest : Text) : Prop where
  split : t = inner ++ ']' :: rest
  again : ∀ n s, inner.length < n → f n (inner ++ ']' :: s) = .ok (x, s)

/-- What follows an atom takes a class to its end if the members from there on do. -/
lemma exists_inner_of_classTail {fuel : Nat} {atom : ClassAtom} {t rest : Text}
    {members : List Member}
    (ih : ∀ t members rest, classMembers fuel false t = .ok (members, rest) →
      ∃ inner, EndsClass (classMembers · false) t members inner rest ∧ Inside inner)
    (h : classTail fuel atom t = .ok (members, rest)) :
    ∃ inner, EndsClass (classTail · atom) t members inner rest ∧ Inside inner := by
  unfold classTail at h
  split at h
  · cases h
    exact ⟨['-'], ⟨rfl, fun n s _ => rfl⟩, .char (by decide) .nil⟩
  · cases h
  · rename_i d t hd
    split at h
    · cases h
    · rename_i last after hatom
      obtain ⟨piece, rfl, -, hinside, hagain⟩ := exists_piece_of_classAtom hatom
      split at h
      · cases h
      · cases h
      · rename_i found more _ hrange hmore
        cases h
        obtain ⟨inner, hends, hinner⟩ := ih _ _ _ hmore
        refine ⟨'-' :: d :: (piece ++ inner), ⟨?_, fun n s hn => ?_⟩, ?_⟩
        · rw [hends.split]
          simp
        · have hsame : SameUpTo ']' after (inner ++ ']' :: s) :=
            hends.split ▸ (SameUpTo.here rest s).append_left inner
          have hn : inner.length < n := by
            simp only [List.length_cons, List.length_append] at hn
            omega
          rw [List.cons_append, List.cons_append, List.append_assoc, classTail.eq_3 _ _ _ _ hd,
            hagain _ hsame]
          simp [hrange, hends.again n s hn]
        · exact .char (by decide) ((hinside hd).append hinner)
  · rename_i hpair hend hrange
    obtain ⟨more, hmore, heq⟩ := map_eq_ok_iff.mp h
    cases heq
    obtain ⟨inner, hends, hinner⟩ := ih _ _ _ hmore
    refine ⟨inner, ⟨hends.split, fun n s hn => ?_⟩, hinner⟩
    have hsame : SameUpTo ']' t (inner ++ ']' :: s) :=
      hends.split ▸ (SameUpTo.here more.2 s).append_left inner
    -- a hyphen would have led to one of the other cases
    obtain ⟨d, u, ht, hd⟩ : ∃ d u, t = d :: u ∧ d ≠ '-' := by
      rcases t with _ | ⟨d, u⟩
      · cases hsame
      · refine ⟨d, u, rfl, ?_⟩
        rintro rfl
        rcases u with _ | ⟨e, u⟩
        · exact hend rfl
        · exact hrange e u rfl
    obtain ⟨v, hv⟩ := (ht ▸ hsame).exists_cons
    have hagain := hends.again n s hn
    rw [hv] at hagain ⊢
    rw [classTail_cons n atom hd, hagain]
    rfl

/-- A class that does not end at once goes on with one atom, which is a bracket only at its start,
and then up to its end. -/
lemma exists_inner_of_classMembers_cons {fuel : Nat} {fresh : Bool} {c : Char} {t rest : Text}
    {members : List Member}
    (ih : ∀ t members rest, classMembers fuel false t = .ok (members, rest) →
      ∃ inner, EndsClass (classMembers · false) t members inner rest ∧ Inside inner)
    (hgoes : ¬(c = ']' && !fresh))
    (h : classMembers (fuel + 1) fresh (c :: t) = .ok (members, rest)) :
    ∃ piece inner, EndsClass (classMembers · fresh) (c :: t) members (c :: (piece ++ inner)) rest ∧
      (c = ']' → piece = []) ∧ (c ≠ ']' → Inside (c :: piece)) ∧ Inside inner := by
  rw [classMembers_cons, if_neg hgoes] at h
  split at h
  · cases h
  · rename_i atom after hatom
    obtain ⟨piece, rfl, hbracket, hinside, hagain⟩ := exists_piece_of_classAtom hatom
    obtain ⟨inner, hends, hinner⟩ := exists_inner_of_classTail ih h
    refine ⟨piece, inner, ⟨?_, fun n s hn => ?_⟩, hbracket, hinside, hinner⟩
    · rw [hends.split, List.cons_append, List.append_assoc]
    · have hsame : SameUpTo ']' after (inner ++ ']' :: s) :=
        hends.split ▸ (SameUpTo.here rest s).append_left inner
      simp only [List.length_cons, List.length_append] at hn
      obtain ⟨m, rfl⟩ : ∃ m, n = m + 1 := ⟨n - 1, by omega⟩
      rw [List.cons_append, List.append_assoc, classMembers_cons, if_neg hgoes, hagain _ hsame]
      exact hends.again m s (by omega)

/-- The members of a class after its first one are text within the class, and they are read alike
whatever follows the class. -/
lemma exists_inner_of_classMembers {fuel : Nat} {t rest : Text} {members : List Member}
    (h : classMembers fuel false t = .ok (members, rest)) :
    ∃ inner, EndsClass (classMembers · false) t members inner rest ∧ Inside inner := by
  induction fuel generalizing t members rest with
  | zero => cases h
  | succ fuel ih =>
    cases t with
    | nil => cases h
    | cons c t =>
      by_cases hc : c = ']'
      · subst hc
        rw [classMembers_cons, if_pos (by decide)] at h
        cases h
        refine ⟨[], ⟨rfl, fun n s hn => ?_⟩, .nil⟩
        obtain ⟨m, rfl⟩ : ∃ m, n = m + 1 := ⟨n - 1, by simp at hn; omega⟩
        rw [List.nil_append, classMembers_cons, if_pos (by decide)]
      · obtain ⟨piece, inner, hends, -, hinside, hinner⟩ :=
          exists_inner_of_classMembers_cons (fun _ _ _ => ih) (by simp [hc]) h
        exact ⟨c :: (piece ++ inner), hends, (hinside hc).append hinner⟩

end

/-! ## The whole class -/

/-- A class is passed from its opening bracket on, and the closing bracket after its members ends
it. A bracket that is the first member does not, neither for the scan. -/
lemma passes_class {c : Char} {piece inner : Text} (hbracket : c = ']' → piece = [])
    (hinside : c ≠ ']' → Inside (c :: piece)) (hinner : Inside inner) (hcaret : c ≠ '^') :
    Passes false ('[' :: (c :: (piece ++ inner) ++ [']'])) false ∧
      ∀ s, afterClass? (c :: (piece ++ inner) ++ [']'] ++ s) = some s := by
  have hend : Passes true (inner ++ [']']) false := hinner.passes.append .bracket
  by_cases hc : c = ']'
  · subst hc
    obtain rfl := hbracket rfl
    exact ⟨.openBracket hend, hinner.afterBracket?_bracket⟩
  · have hmembers := (hinside hc).append hinner
    refine ⟨.openMember (hmembers.passes.append .bracket) hcaret hc, fun s => ?_⟩
    exact (afterClass?_cons hcaret hc _).trans (hmembers.afterBracket?_bracket s)

/-- The same of an inverted class. -/
lemma passes_inverted {c : Char} {piece inner : Text} (hbracket : c = ']' → piece = [])
    (hinside : c ≠ ']' → Inside (c :: piece)) (hinner : Inside inner) :
    Passes false ('[' :: '^' :: (c :: (piece ++ inner) ++ [']'])) false ∧
      ∀ s, afterClass? ('^' :: (c :: (piece ++ inner) ++ [']']) ++ s) = some s := by
  have hend : Passes true (inner ++ [']']) false := hinner.passes.append .bracket
  by_cases hc : c = ']'
  · subst hc
    obtain rfl := hbracket rfl
    exact ⟨.openInvertedBracket hend, hinner.afterBracket?_bracket⟩
  · have hmembers := (hinside hc).append hinner
    refine ⟨.openInvertedMember (hmembers.passes.append .bracket) hc, fun s => ?_⟩
    exact (afterClass?_caret hc _).trans (hmembers.afterBracket?_bracket s)

section

variable [CharacterNames]

/-- A class that begins with a caret is inverted. -/
lemma classToken_caret (t : Text) :
    classToken ('^' :: t) = (classMembers (t.length + 1) true t).map fun (members, rest) =>
      (.item (classExpr true members), rest) :=
  rfl

/-- Any other class is not. -/
lemma classToken_cons {c : Char} (hc : c ≠ '^') (t : Text) :
    classToken (c :: t) = (classMembers (t.length + 2) true (c :: t)).map fun (members, rest) =>
      (.item (classExpr false members), rest) := by
  have hhead : (c == '^') = false := by simpa using hc
  simp [classToken, hhead]

/-- A class is passed, and it is read alike whatever follows it. -/
lemma exists_piece_of_classToken {t rest : Text} {k : Token} (h : classToken t = .ok (k, rest)) :
    ∃ piece, CutsOff classToken t k piece rest ∧ Passes false ('[' :: piece) false ∧
      ∀ s, afterClass? (piece ++ s) = some s := by
  rcases t with _ | ⟨c, t⟩
  · cases h
  by_cases hc : c = '^'
  · subst hc
    rw [classToken_caret] at h
    rcases t with _ | ⟨c, t⟩
    · cases h
    obtain ⟨found, hmembers, heq⟩ := map_eq_ok_iff.mp h
    cases heq
    obtain ⟨piece, inner, hends, hbracket, hinside, hinner⟩ := exists_inner_of_classMembers_cons
      (fun _ _ _ => exists_inner_of_classMembers) (by simp) hmembers
    refine ⟨'^' :: (c :: (piece ++ inner) ++ [']']), ⟨?_, fun s _ => ?_⟩,
      passes_inverted hbracket hinside hinner⟩
    · rw [hends.split]
      simp
    · have hlength : (c :: (piece ++ inner)).length <
          (c :: (piece ++ inner) ++ ']' :: s).length + 1 := by
        rw [List.length_append]
        omega
      have hagain := hends.again _ s hlength
      rw [List.cons_append, List.append_assoc, List.singleton_append, classToken_caret, hagain]
      rfl
  · rw [classToken_cons hc] at h
    obtain ⟨found, hmembers, heq⟩ := map_eq_ok_iff.mp h
    cases heq
    obtain ⟨piece, inner, hends, hbracket, hinside, hinner⟩ := exists_inner_of_classMembers_cons
      (fun _ _ _ => exists_inner_of_classMembers) (by simp) hmembers
    refine ⟨c :: (piece ++ inner) ++ [']'], ⟨?_, fun s _ => ?_⟩,
      passes_class hbracket hinside hinner hc⟩
    · rw [hends.split]
      simp
    · have hlength : (c :: (piece ++ inner)).length <
          (piece ++ inner ++ ']' :: s).length + 2 := by
        simp only [List.length_cons, List.length_append]
        omega
      have hagain := hends.again _ s hlength
      rw [List.append_assoc, List.singleton_append, List.cons_append, classToken_cons hc,
        ← List.cons_append, hagain]
      rfl

end

end DeclIndex.Pattern
