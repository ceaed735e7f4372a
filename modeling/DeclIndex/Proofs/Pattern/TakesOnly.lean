import DeclIndex.Proofs.Pattern.Avoids
import DeclIndex.Proofs.Pattern.WholeWord

/-!
# The texts that an expression can take

`Expr.TakesOnly` says of an expression that every text it can take has a property, wherever it
stands and whatever follows it. Such properties are put together like the expression itself, so that
a match tells what its text looks like. In the other direction `Expr.Consumes` says which of the
texts is taken where several are possible.

## Main definitions

* `Pattern.Expr.TakesOnly` — a property of all texts that an expression can take.

## Main results

* `Pattern.Expr.TakesOnly.seq` — the texts of parts one after the other.
* `Pattern.Expr.first_opt_skip` — a part that may be left out is left out where nothing leads on
  after it.
-/

namespace DeclIndex.Pattern.Expr

/-- Every text that the expression can take has a property. -/
def TakesOnly (e : Expr) (fold : Bool) (P : Text → Prop) : Prop :=
  ∀ ⦃s t : State⦄, e.Takes fold s t → ∃ v, s.rest = v ++ t.rest ∧ P v

variable {p q : Expr} {parts : List Expr} {fold : Bool} {P Q : Text → Prop}

/-! ## Parts -/

/-- Conditions take nothing. -/
lemma takesOnly_anchor (a : Anchor) : (Expr.anchor a).TakesOnly fold (· = []) := by
  rintro s _ ⟨_, rfl⟩
  exact ⟨[], rfl, rfl⟩

/-- One character that passes a test. -/
private lemma exists_of_takesOne {test : Char → Bool} {s t : State}
    (h : State.TakesOne test s t) : ∃ c, s.rest = [c] ++ t.rest ∧ test c = true := by
  obtain ⟨c, rest, hrest, hc, rfl⟩ := h
  exact ⟨c, hrest, hc⟩

/-- One character of a class. -/
lemma takesOnly_set (inverted : Bool) (members : List Member) :
    (Expr.set inverted members).TakesOnly fold
      fun v => ∃ c, v = [c] ∧ accepts fold inverted members c = true := by
  intro s t h
  obtain ⟨c, hrest, hc⟩ := exists_of_takesOne h
  exact ⟨[c], hrest, c, rfl, hc⟩

/-- A group takes what stands in it. -/
lemma TakesOnly.group (h : p.TakesOnly fold P) (i : Nat) : (Expr.group i p).TakesOnly fold P := by
  rintro s _ ⟨t, ht, rfl⟩
  obtain ⟨v, hv, hP⟩ := h ht
  exact ⟨v, hv, hP⟩

/-- Parts one after the other, cut in two. -/
lemma takes_seq_append (ps qs : List Expr) {s u : State} (h : (seq (ps ++ qs)).Takes fold s u) :
    ∃ t, (seq ps).Takes fold s t ∧ (seq qs).Takes fold t u := by
  induction ps generalizing s with
  | nil => exact ⟨s, rfl, h⟩
  | cons p ps ih =>
    cases ps with
    | nil =>
      cases qs with
      | nil => exact ⟨u, h, rfl⟩
      | cons q qs => exact h
    | cons p' ps =>
      obtain ⟨b, hb, hrest⟩ := h
      obtain ⟨t, ht, hqs⟩ := ih hrest
      exact ⟨t, ⟨b, hb, ht⟩, hqs⟩

/-- What follows a position that an expression leads to is an end of what followed the first. -/
lemma rest_isSuffix_of_takes {s t : State} (h : p.Takes fold s t) : t.rest <:+ s.rest := by
  have havoids : ∀ c ∈ ([] : Text).head?, p.avoids c fold = true := by simp
  obtain ⟨v, hv, ht⟩ := p.exists_suffix_of_takes fold havoids (List.append_nil s.rest).symm h
  rwa [ht, List.append_nil]

/-- Case told apart, a match of parts among which a character is written comes past this character
of the text, and what is written behind it leads on from there. -/
lemma exists_takes_after_char {p : Pattern} {ps qs : List Expr} {c : Char}
    (hbody : p.body = .seq (ps ++ .char c :: qs)) (hfold : p.fold = false) {text : Text}
    {found : Found} (h : p.find? text = some found) :
    ∃ before s t, text = before ++ c :: s.rest ∧ (seq qs).Takes false s t := by
  obtain ⟨start, after, t, rfl, ht, _⟩ := exists_takes_of_find? h
  rw [hbody, hfold] at ht
  obtain ⟨b, hb, hbt⟩ := takes_seq_append ps _ ht
  obtain ⟨s, ⟨d, rest, hrest, hd, rfl⟩, hst⟩ := takes_seq_append [Expr.char c] qs hbt
  obtain rfl : c = d := beq_iff_eq.mp hd
  obtain ⟨v, hv⟩ := rest_isSuffix_of_takes hb
  have hv : v ++ c :: rest = after := by rwa [hrest] at hv
  exact ⟨start ++ v, _, t, by rw [← hv, List.append_assoc], hst⟩

/-- A text without this character holds no match. -/
lemma find?_eq_none_of_not_mem {p : Pattern} {ps qs : List Expr} {c : Char}
    (hbody : p.body = .seq (ps ++ .char c :: qs)) (hfold : p.fold = false) {text : Text}
    (hc : c ∉ text) : p.find? text = none := by
  rw [Option.eq_none_iff_forall_ne_some]
  intro found hfound
  obtain ⟨before, s, _, rfl, _⟩ := exists_takes_after_char hbody hfold hfound
  exact hc (by simp)

/-- **Parts one after the other** take texts one after the other. -/
lemma TakesOnly.seq (hp : p.TakesOnly fold P) (hparts : (Expr.seq parts).TakesOnly fold Q) :
    (Expr.seq (p :: parts)).TakesOnly fold fun v => ∃ x y, v = x ++ y ∧ P x ∧ Q y := by
  intro s u h
  obtain ⟨t, hst, htu⟩ := takes_seq_append [p] parts h
  obtain ⟨x, hx, hPx⟩ := hp hst
  obtain ⟨y, hy, hQy⟩ := hparts htu
  exact ⟨x ++ y, by rw [hx, hy, List.append_assoc], x, y, rfl, hPx, hQy⟩

/-- The last part. -/
lemma TakesOnly.seq_one (hp : p.TakesOnly fold P) : (Expr.seq [p]).TakesOnly fold P := hp

/-- A part that may be left out. -/
lemma TakesOnly.opt (h : (Expr.seq parts).TakesOnly fold P) :
    (Expr.opt parts).TakesOnly fold fun v => v = [] ∨ P v := by
  rintro s t ⟨n, _, hmost, hiter⟩
  have hle : n ≤ 1 := hmost 1 rfl
  match n, hle with
  | 0, _ =>
    obtain rfl : t = s := hiter
    exact ⟨[], rfl, Or.inl rfl⟩
  | 1, _ =>
    obtain ⟨b, hb, rfl⟩ := hiter
    obtain ⟨v, hv, hP⟩ := h hb
    exact ⟨v, hv, Or.inr hP⟩

/-- The characters of a text, up to case. -/
lemma takesOnly_word (w : Text) : (word w).TakesOnly fold
    (List.Forall₂ (fun c d => sameChar fold c d = true) w) := by
  induction w with
  | nil =>
    rintro s _ rfl
    exact ⟨[], rfl, .nil⟩
  | cons c w ih =>
    intro s u h
    obtain ⟨t, hst, htu⟩ := takes_seq_append [Expr.char c] (w.map .char) h
    obtain ⟨d, hd, hcd⟩ := exists_of_takesOne hst
    obtain ⟨v, hv, hwv⟩ := ih htu
    exact ⟨d :: v, by rw [hd, hv]; rfl, .cons hcd hwv⟩

section Loops

variable {inverted : Bool} {members : List Member}

/-- Rounds over a class. -/
private lemma exists_of_iterates (n : Nat) : ∀ {s t : State},
    Iterates ((Expr.set inverted members).Takes fold) n s t →
    ∃ v, s.rest = v ++ t.rest ∧ v.length = n ∧
      ∀ c ∈ v, accepts fold inverted members c = true := by
  induction n with
  | zero =>
    rintro s _ rfl
    exact ⟨[], rfl, rfl, by simp⟩
  | succ n ih =>
    rintro s t ⟨b, hb, hiter⟩
    obtain ⟨c, hc, hcc⟩ := exists_of_takesOne hb
    obtain ⟨v, hv, hlength, hall⟩ := ih hiter
    exact ⟨c :: v, by rw [hc, hv]; rfl, by rw [List.length_cons, hlength],
      List.forall_mem_cons.mpr ⟨hcc, hall⟩⟩

/-- Any number of characters of a class. -/
lemma takesOnly_many_set (inverted : Bool) (members : List Member) :
    (many (Expr.set inverted members)).TakesOnly fold
      fun v => ∀ c ∈ v, accepts fold inverted members c = true := by
  rintro s t ⟨n, _, _, hiter⟩
  obtain ⟨v, hv, _, hall⟩ := exists_of_iterates n hiter
  exact ⟨v, hv, hall⟩

/-- At least one character of a class. -/
lemma takesOnly_some1_set (inverted : Bool) (members : List Member) :
    (some1 (Expr.set inverted members)).TakesOnly fold
      fun v => v ≠ [] ∧ ∀ c ∈ v, accepts fold inverted members c = true := by
  rintro s t ⟨n, hn, _, hiter⟩
  obtain ⟨v, hv, hlength, hall⟩ := exists_of_iterates n hiter
  refine ⟨v, hv, ?_, hall⟩
  rintro rfl
  rw [← hlength] at hn
  exact absurd hn (by decide)

end Loops

/-! ## The way that is tried first -/

/-- A text is taken in any case where case makes no difference. -/
lemma consumes_word_of_same {w v : Text}
    (h : List.Forall₂ (fun c d => sameChar fold c d = true) w v) (after : Text) :
    (word w).Consumes fold v after := by
  induction h with
  | nil => exact consumes_empty
  | @cons c d w v hcd _ ih =>
    have hchar : (Expr.char c).Consumes fold [d] (v ++ after) := by
      intro before groups k r hk
      rw [State.between, List.reverse_append] at hk
      simp only [run, State.between, List.singleton_append, takeOne, hcd, if_true]
      exact hk
    exact hchar.seq ih

/-- A part that may be left out is left out where nothing leads on after it. -/
lemma first_opt_skip {s u : State}
    (hskip : ∀ t, (Expr.seq parts).Takes fold s t → q.IsStuck fold t) (hq : q.First fold s u) :
    (Expr.cat (.opt parts) q).First fold s u := by
  intro k r hk
  have hround : (Expr.seq parts).run fold
      (further ((Expr.seq parts).run fold) false (q.run fold k) 0 (some s.position)) s = none := by
    rw [Option.eq_none_iff_forall_ne_some]
    intro r' hr'
    obtain ⟨t, hst, ht⟩ := (Expr.seq parts).exists_takes_of_run fold _ _ _ hr'
    have hstuck : q.run fold k t = none := (hskip t hst).run_eq_none k
    exact absurd (hstuck.symm.trans ht) (by simp)
  change further ((Expr.seq parts).run fold) false (q.run fold k) 1 none s = some r
  rw [further, if_neg (by simp)]
  simp only [hround, hq k r hk, Bool.false_eq_true, if_false]

/-- What may not follow does not follow. -/
lemma first_notAhead {s : State} (h : p.IsStuck fold s) : (Expr.notAhead p).First fold s s := by
  intro k r hk
  simp only [run, h.run_eq_none, hk]

/-- What may not follow does. -/
lemma First.isStuck_notAhead {s t : State} (h : p.First fold s t) :
    (Expr.notAhead p).IsStuck fold s := by
  rintro _ ⟨hrun, _⟩
  exact absurd (hrun.symm.trans (h some t rfl)) (by simp)

/-- What may not follow is a character that does not stand there. -/
lemma any_head?_of_takes_notAhead {c : Char} {s t : State}
    (h : (Expr.notAhead (word [c])).Takes fold s t) :
    s.rest.head?.any (sameChar fold c) = false := by
  obtain ⟨passed, rest, groups⟩ := s
  obtain ⟨hrun, _⟩ := h
  cases rest with
  | nil => rfl
  | cons d rest =>
    rw [List.head?_cons, Option.any_some, Bool.eq_false_iff]
    intro hd
    have hsome : (word [c]).run fold some ⟨passed, d :: rest, groups⟩ =
        some ⟨d :: passed, rest, groups⟩ := by
      change takeOne (sameChar fold c) some _ = _
      rw [takeOne, if_pos hd]
    exact absurd (hrun.symm.trans hsome) (by simp)

end DeclIndex.Pattern.Expr
