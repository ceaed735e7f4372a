import DeclIndex.Proofs.Pattern.Takes

/-!
# The way that is tried first

Where a run has several ways to go on, it tries them in an order and settles for the first at whose
end its continuation succeeds. This module follows the way that is tried first: `Expr.First` says
that an expression leads from one state to another and that a continuation which succeeds there is
not tried anywhere before. Ways that lead nowhere may be tried on the way; that they lead nowhere is
`Expr.IsStuck`.

First ways are put together like the expression itself, so that the match of a pattern in a text
whose shape is known is found piece by piece. A loop tries as many rounds as it can and gives back
those after which nothing leads on; its first way ends where the expression after it leads on.

## Main definitions

* `Pattern.State.between` — a position, given by the texts before and after it.
* `Pattern.Span.after` — the span of a text that stands after another.
* `Pattern.Expr.First` — the state that the way tried first leads to.
* `Pattern.Expr.IsStuck` — an expression that leads nowhere.
* `Pattern.Expr.IsOne` — an expression that takes one character.

## Main results

* `Pattern.find?_of_first` — a first way from the start of a text is the match that is found.
* `Pattern.Expr.first_many` — the first way of a loop that runs as often as it can.
* `Pattern.Expr.run_many_giveBack` — a loop that gives back rounds.
-/

namespace DeclIndex.Pattern

/-! ## Positions and spans -/

/-- The position between two texts. -/
def State.between (before after : Text) (groups : List (Nat × Span)) : State :=
  ⟨before.reverse, after, groups⟩

@[simp]
lemma State.position_between (before after : Text) (groups : List (Nat × Span)) :
    (State.between before after groups).position = before.length :=
  List.length_reverse

@[simp]
lemma State.rest_between (before after : Text) (groups : List (Nat × Span)) :
    (State.between before after groups).rest = after := rfl

/-- The span of the text `t` that stands after `before`. -/
def Span.after (before t : Text) : Span :=
  ⟨before.length, (before ++ t).length⟩

/-- The text that a span covers. -/
lemma Span.slice_after (before t rest : Text) :
    (Span.after before t).slice (before ++ (t ++ rest)) = t := by
  rw [Span.slice, Span.after]
  dsimp only
  rw [List.drop_left, List.length_append, Nat.add_sub_cancel_left, List.take_left]

/-- The text before a span. -/
lemma Span.take_start_after (before t rest : Text) :
    (before ++ rest).take (Span.after before t).start = before :=
  List.take_left

namespace Expr

/-! ## First ways and dead ends -/

/-- The state `t` is where the way that is tried first leads from `s`: a run whose continuation
succeeds at `t` has that success. -/
def First (e : Expr) (fold : Bool) (s t : State) : Prop :=
  ∀ k r, k t = some r → e.run fold k s = some r

/-- From `s` the expression leads nowhere. -/
def IsStuck (e : Expr) (fold : Bool) (s : State) : Prop :=
  ∀ t, ¬e.Takes fold s t

variable {p q : Expr} {fold : Bool} {s t u : State}

/-- A run of an expression that leads nowhere fails. -/
lemma IsStuck.run_eq_none (h : p.IsStuck fold s) (k : Continuation) : p.run fold k s = none := by
  rw [Option.eq_none_iff_forall_ne_some]
  intro r hr
  obtain ⟨t, ht, _⟩ := p.exists_takes_of_run fold k s r hr
  exact h t ht

/-- What begins with a dead end is one. -/
lemma IsStuck.cat (h : p.IsStuck fold s) (q : Expr) : (Expr.cat p q).IsStuck fold s := by
  rintro u ⟨t, ht, _⟩
  exact h t ht

/-- Where all ways of the first part end, the second leads nowhere. -/
lemma isStuck_cat (h : ∀ t, p.Takes fold s t → q.IsStuck fold t) :
    (Expr.cat p q).IsStuck fold s := by
  rintro u ⟨t, ht, hu⟩
  exact h t ht u hu

/-- Both alternatives lead nowhere. -/
lemma IsStuck.alt (hp : p.IsStuck fold s) (hq : q.IsStuck fold s) :
    (Expr.alt p q).IsStuck fold s := by
  rintro t (h | h)
  · exact hp t h
  · exact hq t h

/-- A group around a dead end is one. -/
lemma IsStuck.group (h : p.IsStuck fold s) (i : Nat) : (Expr.group i p).IsStuck fold s := by
  rintro u ⟨t, ht, _⟩
  exact h t ht

/-- A loop with a required round leads nowhere if the round does. -/
lemma IsStuck.some1 (h : p.IsStuck fold s) : (Expr.some1 p).IsStuck fold s := by
  rintro t ⟨n, hn, _, hiter⟩
  cases n with
  | zero => exact absurd hn (by decide)
  | succ n =>
    obtain ⟨b, hb, _⟩ := hiter
    exact h b hb

/-- A part that may be left out and leads nowhere is left out. -/
lemma IsStuck.eq_of_opt {parts : List Expr} (h : (Expr.seq parts).IsStuck fold s)
    (hst : (Expr.opt parts).Takes fold s t) : t = s := by
  obtain ⟨n, _, _, hiter⟩ := hst
  cases n with
  | zero => exact hiter
  | succ n =>
    obtain ⟨b, hb, _⟩ := hiter
    exact absurd hb (h b)

/-- The first of several parts leads nowhere. -/
lemma IsStuck.seq (h : p.IsStuck fold s) (parts : List Expr) :
    (Expr.seq (p :: parts)).IsStuck fold s := by
  cases parts with
  | nil => exact h
  | cons q parts => exact h.cat _

/-! ## Single steps -/

/-- Nothing takes nothing. -/
lemma first_empty : Expr.empty.First fold s s := fun _ _ h => h

/-- One after the other. -/
lemma First.cat (hp : p.First fold s t) (hq : q.First fold t u) :
    (Expr.cat p q).First fold s u :=
  fun k r h => hp _ r (hq k r h)

/-- One part after the other. -/
lemma First.seq {parts : List Expr} (hp : p.First fold s t)
    (hparts : (Expr.seq parts).First fold t u) : (Expr.seq (p :: parts)).First fold s u := by
  cases parts with
  | nil =>
    intro k r h
    exact hp k r (hparts k r h)
  | cons q parts => exact hp.cat hparts

/-- The last part. -/
lemma First.seq_one (hp : p.First fold s t) : (Expr.seq [p]).First fold s t := hp

/-- Parts one after the other, cut in two. -/
lemma run_seq_append (ps qs : List Expr) (fold : Bool) (k : Continuation) :
    (Expr.seq (ps ++ qs)).run fold k = (Expr.seq ps).run fold ((Expr.seq qs).run fold k) := by
  induction ps with
  | nil => rfl
  | cons p ps ih =>
    cases ps with
    | nil =>
      cases qs with
      | nil => rfl
      | cons q qs => rfl
    | cons p' ps =>
      change p.run fold ((Expr.seq (p' :: ps ++ qs)).run fold k) = _
      rw [ih]
      rfl

/-- Some parts, and those after them. -/
lemma First.seq_append {ps qs : List Expr} (hp : (Expr.seq ps).First fold s t)
    (hq : (Expr.seq qs).First fold t u) : (Expr.seq (ps ++ qs)).First fold s u := by
  intro k r hk
  rw [run_seq_append]
  exact hp _ r (hq k r hk)

/-- The first of two alternatives. -/
lemma First.alt_left (hp : p.First fold s t) (q : Expr) : (Expr.alt p q).First fold s t := by
  intro k r h
  simp only [run, hp k r h]

/-- The second of two alternatives, if the first leads nowhere. -/
lemma First.alt_right (hq : q.First fold s t) (hp : p.IsStuck fold s) :
    (Expr.alt p q).First fold s t := by
  intro k r h
  simp only [run, hp.run_eq_none k]
  exact hq k r h

/-- A condition that holds. -/
lemma first_anchor {a : Anchor} (h : a.holds s = true) : (Expr.anchor a).First fold s s := by
  intro k r hk
  simp only [run, h, if_true]
  exact hk

/-- The start of the text. -/
lemma first_start (after : Text) (groups : List (Nat × Span)) :
    start.First fold (.between [] after groups) (.between [] after groups) :=
  first_anchor rfl

section Between

variable {before w after : Text} {groups groups' : List (Nat × Span)}

/-- Where only one of the two characters around is a word character a word begins or ends. -/
lemma first_edge (h : (before.getLast?.any Text.isWord != after.head?.any Text.isWord) = true) :
    edge.First fold (.between before after groups) (.between before after groups) := by
  refine first_anchor ?_
  rwa [Anchor.holds, State.atWordEdge, State.between, List.head?_reverse]

/-- A group remembers the text it has taken. -/
lemma First.group (h : p.First fold (.between before (w ++ after) groups)
    (.between (before ++ w) after groups')) (i : Nat) :
    (Expr.group i p).First fold (.between before (w ++ after) groups)
      (.between (before ++ w) after ((i, .after before w) :: groups')) := by
  intro k r hk
  refine h _ r ?_
  rw [State.position_between, State.position_between]
  exact hk

/-! ## Single characters -/

/-- The expression takes one character, which passes a test. -/
structure IsOne (e : Expr) (fold : Bool) (test : Char → Bool) : Prop where
  run_eq : ∀ k, e.run fold k = takeOne test k
  takes_iff : ∀ s t, e.Takes fold s t ↔ s.TakesOne test t

/-- A class takes one of its characters. -/
lemma isOne_set (inverted : Bool) (members : List Member) :
    (Expr.set inverted members).IsOne fold (accepts fold inverted members) :=
  ⟨fun _ => rfl, fun _ _ => Iff.rfl⟩

/-- A character takes itself. -/
lemma isOne_char (c : Char) : (Expr.char c).IsOne fold (sameChar fold c) :=
  ⟨fun _ => rfl, fun _ _ => Iff.rfl⟩

/-- Within a line any character is taken. -/
lemma isOne_any (breaks : Bool) : (Expr.any breaks).IsOne fold fun c => breaks || c != '\n' :=
  ⟨fun _ => rfl, fun _ _ => Iff.rfl⟩

/-- A character that passes the test. -/
lemma IsOne.first {test : Char → Bool} (hp : p.IsOne fold test) {c : Char} (hc : test c = true)
    (before after : Text) (groups : List (Nat × Span)) :
    p.First fold (.between before (c :: after) groups) (.between (before ++ [c]) after groups) := by
  intro k r hk
  rw [State.between, List.reverse_append] at hk
  rw [hp.run_eq, State.between, takeOne, if_pos hc]
  exact hk

/-- A character that fails the test. -/
lemma IsOne.isStuck {test : Char → Bool} (hp : p.IsOne fold test)
    (h : after.head?.any test = false) : p.IsStuck fold (.between before after groups) := by
  intro t ht
  obtain ⟨c, rest, hrest, hc, _⟩ := (hp.takes_iff _ _).mp ht
  rw [State.rest_between] at hrest
  rw [hrest] at h
  exact absurd hc (by simpa using h)

/-- A character that passes the test of a class. -/
lemma first_set {inverted : Bool} {members : List Member} {c : Char}
    (hc : accepts fold inverted members c = true) (before after : Text)
    (groups : List (Nat × Span)) :
    (Expr.set inverted members).First fold (.between before (c :: after) groups)
      (.between (before ++ [c]) after groups) :=
  (isOne_set inverted members).first hc before after groups

/-- A character that fails the test of a class. -/
lemma isStuck_set {inverted : Bool} {members : List Member}
    (h : after.head?.any (accepts fold inverted members) = false) :
    (Expr.set inverted members).IsStuck fold (.between before after groups) :=
  (isOne_set inverted members).isStuck h

/-- The character itself. -/
lemma first_char {c : Char} (hc : sameChar fold c c = true) (before after : Text)
    (groups : List (Nat × Span)) :
    (Expr.char c).First fold (.between before (c :: after) groups)
      (.between (before ++ [c]) after groups) :=
  (isOne_char c).first hc before after groups

/-- Another character. -/
lemma isStuck_char {c : Char} (h : after.head?.any (sameChar fold c) = false) :
    (Expr.char c).IsStuck fold (.between before after groups) :=
  (isOne_char c).isStuck h

/-- A character agrees with itself. -/
@[simp]
lemma sameChar_self (fold : Bool) (c : Char) : sameChar fold c c = true := by
  cases fold <;> simp [sameChar, Text.agree]

/-- The characters of a text. -/
lemma first_word (w : Text) : ∀ (before after : Text) (groups : List (Nat × Span)),
    (word w).First fold (.between before (w ++ after) groups)
      (.between (before ++ w) after groups) := by
  induction w with
  | nil =>
    intro before after groups
    rw [List.append_nil, List.nil_append]
    exact first_empty
  | cons c w ih =>
    intro before after groups
    have hstep : (Expr.char c).First fold _ _ :=
      first_char (sameChar_self fold c) before (w ++ after) groups
    have hrest := ih (before ++ [c]) after groups
    rw [List.append_assoc, List.singleton_append] at hrest
    exact hstep.seq hrest

end Between

/-! ## One character back -/

section Behind

variable {test : Char → Bool} {before after : Text} {groups : List (Nat × Span)}

/-- The character before a position. -/
private lemma back?_between :
    (State.between before after groups).back? 1 =
      before.getLast?.map fun c => .between before.dropLast (c :: after) groups := by
  rcases List.eq_nil_or_concat before with rfl | ⟨init, c, rfl⟩
  · rfl
  · simp [State.back?, State.between, State.stepBack]

/-- What may not stand before does not stand there. -/
lemma first_notBehind (hp : p.IsOne fold test) (h : before.getLast?.any test = false) :
    (Expr.notBehind 1 p).First fold (.between before after groups)
      (.between before after groups) := by
  intro k r hk
  have hnone : ((State.between before after groups).back? 1).bind (p.run fold some) = none := by
    rw [back?_between, hp.run_eq]
    cases hlast : before.getLast? with
    | none => rfl
    | some c =>
      rw [hlast, Option.any_some] at h
      simp [State.between, takeOne, h]
  simp only [run, hnone, hk]

/-- What may not stand before does. -/
lemma isStuck_notBehind (hp : p.IsOne fold test) (h : before.getLast?.any test = true) :
    (Expr.notBehind 1 p).IsStuck fold (.between before after groups) := by
  rintro t ⟨hnone, _⟩
  rw [back?_between, hp.run_eq] at hnone
  cases hlast : before.getLast? with
  | none => simp [hlast] at h
  | some c =>
    rw [hlast, Option.any_some] at h
    simp [hlast, State.between, takeOne, h] at hnone

/-- Between two word characters there is no edge of a word. -/
lemma isStuck_edge (h : before.getLast?.any Text.isWord = after.head?.any Text.isWord) :
    edge.IsStuck fold (.between before after groups) := by
  rintro t ⟨hedge, _⟩
  rw [Anchor.holds, State.atWordEdge, State.between, List.head?_reverse, h] at hedge
  simp at hedge

end Behind

/-! ## Loops -/

/-- A first way of a round that comes forward. -/
def Advances (e : Expr) (fold : Bool) (s t : State) : Prop :=
  e.First fold s t ∧ s.position < t.position ∧ t.rest.length < s.rest.length

/-- Rounds that come forward take characters. -/
lemma length_le_of_iterates {n : Nat} : ∀ {s t : State}, Iterates (p.Advances fold) n s t →
    t.rest.length + n ≤ s.rest.length := by
  induction n with
  | zero =>
    rintro s t rfl
    exact Nat.le_refl _
  | succ n ih =>
    rintro s t ⟨b, ⟨_, _, hlt⟩, hbt⟩
    have hle := ih hbt
    omega

/-- The further rounds of a loop, which end where the continuation succeeds and after more rounds
would fail. -/
private lemma further_eq_some {k : Continuation} {r : State} (hk : k t = some r)
    (hback : ∀ n u, Iterates (p.Takes fold) (n + 1) t u → k u = none) {n : Nat} :
    ∀ {s : State} {m : Nat} {last : Option Nat}, Iterates (p.Advances fold) n s t → n ≤ m →
      last ≠ some s.position → further (p.run fold) false k m last s = some r := by
  induction n with
  | zero =>
    rintro s m last rfl _ hlast
    cases m with
    | zero => exact hk
    | succ m =>
      have hround : p.run fold (further (p.run fold) false k m (some t.position)) t = none := by
        rw [Option.eq_none_iff_forall_ne_some]
        intro r' hr'
        obtain ⟨b, hb, hmore⟩ := p.exists_takes_of_run fold _ _ _ hr'
        obtain ⟨n, _, u, hu, hku⟩ := exists_of_further (p.exists_takes_of_run fold) _ _ _ _ _ _ hmore
        rw [hback n u ⟨b, hb, hu⟩] at hku
        exact absurd hku (by simp)
      rw [further, if_neg hlast]
      simp only [hround, hk, Bool.false_eq_true, if_false]
  | succ n ih =>
    rintro s m last ⟨b, ⟨hfirst, hpos, _⟩, hbt⟩ hle hlast
    cases m with
    | zero => omega
    | succ m =>
      have hne : (some s.position : Option Nat) ≠ some b.position :=
        fun h => absurd (Option.some.inj h) (by omega)
      have hround := hfirst _ r (ih hbt (Nat.le_of_succ_le_succ hle) hne)
      rw [further, if_neg hlast]
      simp only [hround, Bool.false_eq_true, if_false]

/-- **A loop that gives back rounds.** The loop goes through rounds that come forward. It ends where
its continuation succeeds, if the continuation fails after any number of rounds more.

**Proof sketch.** Induction on the number of rounds. As long as rounds are left one is taken, and the
rest of the loop succeeds by induction. At the end the loop tries more rounds first, but a success
there would be one of the continuation after some of them. -/
lemma run_many_giveBack {k : Continuation} {r : State} {n : Nat}
    (h : Iterates (p.Advances fold) n s t)
    (hback : ∀ n u, Iterates (p.Takes fold) (n + 1) t u → k u = none) (hk : k t = some r) :
    (many p).run fold k s = some r := by
  have hle := length_le_of_iterates h
  exact further_eq_some hk hback h (by simp only [rounds]; omega) (by simp)

/-- A loop that gives back rounds, with the expression after it. -/
lemma first_many_giveBack {n : Nat} (h : Iterates (p.Advances fold) n s t)
    (hback : ∀ n u, Iterates (p.Takes fold) (n + 1) t u → q.IsStuck fold u)
    (hq : q.First fold t u) : (Expr.cat (many p) q).First fold s u :=
  fun k r hk => run_many_giveBack h (fun n v hv => (hback n v hv).run_eq_none k) (hq k r hk)

/-- Where no round leads on, there is none. -/
lemma IsStuck.not_iterates (h : p.IsStuck fold s) (n : Nat) (t : State) :
    ¬Iterates (p.Takes fold) (n + 1) s t := by
  rintro ⟨b, hb, _⟩
  exact h b hb

/-- **A loop that runs as often as it can**: its first way goes through rounds that come forward, up
to a state from which no further round leads on. -/
lemma first_many {n : Nat} (h : Iterates (p.Advances fold) n s t) (hstuck : p.IsStuck fold t) :
    (many p).First fold s t :=
  fun _ _ hk => run_many_giveBack h (fun n u hu => absurd hu (hstuck.not_iterates n u)) hk

/-- A loop of which one round is required. -/
lemma first_some1 {n : Nat} (hst : p.First fold s t) (h : Iterates (p.Advances fold) n t u)
    (hstuck : p.IsStuck fold u) : (some1 p).First fold s u :=
  fun k r hk => hst _ r (first_many h hstuck k r hk)

/-- A loop succeeds if its continuation does after some of the rounds. -/
lemma isSome_run_many {k : Continuation} {n : Nat} (h : Iterates (p.Advances fold) n s t)
    (hk : (k t).isSome = true) : ((many p).run fold k s).isSome = true := by
  have hfurther : ∀ (n m : Nat) (last : Option Nat) (s : State), Iterates (p.Advances fold) n s t →
      n ≤ m → last ≠ some s.position →
      (further (p.run fold) false k m last s).isSome = true := by
    intro n
    induction n with
    | zero =>
      rintro m last s rfl _ hlast
      cases m with
      | zero => exact hk
      | succ m =>
        rw [further, if_neg hlast]
        simp only [Bool.false_eq_true, if_false]
        split
        · rfl
        · exact hk
    | succ n ih =>
      rintro m last s ⟨b, ⟨hfirst, hpos, _⟩, hbt⟩ hle hlast
      cases m with
      | zero => omega
      | succ m =>
        have hne : (some s.position : Option Nat) ≠ some b.position :=
          fun h => absurd (Option.some.inj h) (by omega)
        obtain ⟨r, hr⟩ := Option.isSome_iff_exists.mp
          (ih m _ b hbt (Nat.le_of_succ_le_succ hle) hne)
        rw [further, if_neg hlast]
        simp only [hfirst _ r hr, Bool.false_eq_true, if_false, Option.isSome_some]
  have hle := length_le_of_iterates h
  exact hfurther n _ none s h (by simp only [rounds]; omega) (by simp)

/-- A part that may be left out and is there. -/
lemma First.opt {parts : List Expr} (h : (Expr.seq parts).First fold s t) :
    (Expr.opt parts).First fold s t := by
  intro k r hk
  have htake := h (further (fun k => (Expr.seq parts).run fold k) false k 0 (some s.position)) r hk
  change further (fun k => (Expr.seq parts).run fold k) false k 1 none s = some r
  rw [further, if_neg (by simp)]
  simp only [htake, Bool.false_eq_true, if_false]

/-- A part that may be left out and is not there. -/
lemma first_opt_of_isStuck {parts : List Expr} (h : (Expr.seq parts).IsStuck fold s) :
    (Expr.opt parts).First fold s s := by
  intro k r hk
  change further (fun k => (Expr.seq parts).run fold k) false k 1 none s = some r
  rw [further, if_neg (by simp)]
  simp only [h.run_eq_none, hk, Bool.false_eq_true, if_false]

/-- A loop of which no round is there. -/
lemma first_many_of_isStuck (h : p.IsStuck fold s) : (many p).First fold s s :=
  first_many (n := 0) rfl h

section Characters

variable {test : Char → Bool} {inverted : Bool} {members : List Member} {w after : Text}
  {groups : List (Nat × Span)}

/-- The rounds of a loop over single characters. -/
lemma IsOne.iterates (hp : p.IsOne fold test) (hw : ∀ c ∈ w, test c = true) :
    ∀ before : Text, Iterates (p.Advances fold) w.length
      (.between before (w ++ after) groups) (.between (before ++ w) after groups) := by
  induction w with
  | nil =>
    intro before
    rw [List.append_nil]
    rfl
  | cons c w ih =>
    intro before
    have hstep := hp.first (hw c List.mem_cons_self) before (w ++ after) groups
    have hrest := ih (fun d hd => hw d (List.mem_cons_of_mem _ hd)) (before ++ [c])
    rw [List.append_assoc, List.singleton_append] at hrest
    refine ⟨_, ⟨hstep, ?_, ?_⟩, hrest⟩
    · simp
    · simp

/-- **As many characters of a class as there are.** -/
lemma first_many_set (hw : ∀ c ∈ w, accepts fold inverted members c = true)
    (hafter : after.head?.any (accepts fold inverted members) = false) (before : Text) :
    (many (Expr.set inverted members)).First fold (.between before (w ++ after) groups)
      (.between (before ++ w) after groups) :=
  first_many ((isOne_set inverted members).iterates hw before) (isStuck_set hafter)

/-- As many characters of a class as there are, at least one of them. -/
lemma first_some1_set (hw : ∀ c ∈ w, accepts fold inverted members c = true) (hne : w ≠ [])
    (hafter : after.head?.any (accepts fold inverted members) = false) (before : Text) :
    (some1 (Expr.set inverted members)).First fold (.between before (w ++ after) groups)
      (.between (before ++ w) after groups) := by
  cases w with
  | nil => exact absurd rfl hne
  | cons c w =>
    have hstep : (Expr.set inverted members).First fold _ _ :=
      first_set (hw c List.mem_cons_self) before (w ++ after) groups
    have hrest : Iterates ((Expr.set inverted members).Advances fold) w.length
        (.between (before ++ [c]) (w ++ after) groups)
        (.between (before ++ [c] ++ w) after groups) :=
      (isOne_set inverted members).iterates (fun d hd => hw d (List.mem_cons_of_mem _ hd)) _
    rw [List.append_assoc, List.singleton_append] at hrest
    exact first_some1 hstep hrest (isStuck_set hafter)

/-- Rounds over single characters come to a place within the text, or to its end where the next
character fails the test. -/
lemma IsOne.exists_of_iterates (hp : p.IsOne fold test) (hafter : after.head?.any test = false)
    {n : Nat} : ∀ {v before : Text} {u : State},
      Iterates (p.Takes fold) n (.between before (v ++ after) groups) u →
      ∃ x y, v = x ++ y ∧ x.length = n ∧ u = .between (before ++ x) (y ++ after) groups := by
  induction n with
  | zero =>
    rintro v before u rfl
    exact ⟨[], v, rfl, rfl, by rw [List.append_nil]⟩
  | succ n ih =>
    rintro v before u ⟨b, hb, hbu⟩
    obtain ⟨c, rest, hrest, hc, rfl⟩ := (hp.takes_iff _ _).mp hb
    rw [State.rest_between] at hrest
    cases v with
    | nil =>
      rw [List.nil_append] at hrest
      rw [hrest, List.head?_cons, Option.any_some, hc] at hafter
      exact absurd hafter (by decide)
    | cons d v =>
      obtain ⟨rfl, rfl⟩ := List.cons.inj hrest
      have hbetween : (⟨d :: before.reverse, v ++ after, groups⟩ : State) =
          .between (before ++ [d]) (v ++ after) groups := by
        rw [State.between, List.reverse_append]
        rfl
      obtain ⟨x, y, rfl, hx, hu⟩ := ih (hbetween ▸ hbu)
      refine ⟨d :: x, y, rfl, by rw [List.length_cons, hx], ?_⟩
      rw [hu, List.append_assoc]
      rfl

/-- **A loop over single characters that gives some back.** Let `w ++ v` be as many characters that
pass the test as there are. If the continuation fails after `w` and each longer part, and succeeds
after `w`, then that is where the loop ends. -/
lemma IsOne.run_many_eq_some (hp : p.IsOne fold test) {k : Continuation} {r : State} {v : Text}
    (hafter : after.head?.any test = false) (hw : ∀ c ∈ w, test c = true) (before : Text)
    (hfail : ∀ x y, v = x ++ y → x ≠ [] →
      k (.between (before ++ w ++ x) (y ++ after) groups) = none)
    (hk : k (.between (before ++ w) (v ++ after) groups) = some r) :
    (many p).run fold k (.between before (w ++ (v ++ after)) groups) = some r := by
  refine run_many_giveBack (hp.iterates hw before) (fun n u hu => ?_) hk
  obtain ⟨x, y, hxy, hx, rfl⟩ := hp.exists_of_iterates hafter hu
  exact hfail x y hxy (List.ne_nil_of_length_eq_add_one hx)

end Characters

end Expr

/-! ## Matches -/

/-- A first way from the start of a text is the match there. -/
lemma matchStart?_of_first {p : Pattern} {text : Text} {t : State}
    (h : p.body.First p.fold (.between [] text []) t) :
    p.matchStart? text = some ⟨⟨0, t.position⟩, t.groups⟩ := by
  have hrun := h some t rfl
  rw [State.between, List.reverse_nil] at hrun
  rw [matchStart?, matchAt?, hrun]
  rfl

/-- **A first way from the start of a text is the match that is found.** -/
lemma find?_of_first {p : Pattern} {text : Text} {t : State}
    (h : p.body.First p.fold (.between [] text []) t) :
    p.find? text = some ⟨⟨0, t.position⟩, t.groups⟩ := by
  have hmatch : p.matchAt? [] text = some ⟨⟨0, t.position⟩, t.groups⟩ := matchStart?_of_first h
  cases text with
  | nil => exact hmatch
  | cons c text => rw [find?, findFrom?, hmatch]

end DeclIndex.Pattern
