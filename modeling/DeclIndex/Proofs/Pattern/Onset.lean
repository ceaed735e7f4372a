import DeclIndex.Proofs.Pattern.Takes

/-!
# How a match can begin

What the first character of a text says about the matches that begin there. The answer is found by
going through the expression once: it may be that there is no match, that there are only matches
which take nothing, or that nothing can be said. The answer errs on the side of caution, and it can
be computed for a given pattern and character.

## Main definitions

* `Pattern.Onset` — the three answers.
* `Pattern.Expr.onset` — the answer for an expression and a first character.
* `Pattern.Expr.isAnchored` — an expression that matches at the start of a text only.

## Main results

* `Pattern.Expr.allows_onset` — the answer is right.
* `Pattern.find?_eq_none_of_neverOpens` — an anchored pattern that cannot begin with a character is
  not found in a text that begins with it.
-/

namespace DeclIndex.Pattern

/-- What is known of the matches at a position. -/
inductive Onset
  /-- There is none. -/
  | never
  /-- They take nothing. -/
  | stays
  /-- Nothing is known. -/
  | moves
  deriving DecidableEq, Repr

namespace Onset

/-- What is known of one character that is asked to pass a test. -/
def ofTest (passes : Bool) : Onset :=
  if passes then .moves else .never

/-- What is known of matches of one kind or another. -/
def join : Onset → Onset → Onset
  | .never, o => o
  | o, .never => o
  | .stays, .stays => .stays
  | _, _ => .moves

/-- What is known of one match after another. -/
def andThen : Onset → Onset → Onset
  | .stays, o => o
  | o, _ => o

/-- What is known of matches that may be left out. -/
def orNothing (o : Onset) : Onset :=
  join o .stays

/-- What is known of a position at which something matches from there on. -/
def asCondition : Onset → Onset
  | .never => .never
  | _ => .stays

/-- A match from `s` to `t` is among those that are allowed for. -/
def Allows : Onset → State → State → Prop
  | .never, _, _ => False
  | .stays, s, t => t.passed = s.passed ∧ t.rest = s.rest
  | .moves, _, _ => True

/-- A match of the first kind is a match of one kind or another. -/
lemma Allows.join_left {a : Onset} {s t : State} (h : a.Allows s t) (b : Onset) :
    (a.join b).Allows s t := by
  cases a <;> cases b <;> first | exact h | trivial

/-- A match of the second kind is a match of one kind or another. -/
lemma Allows.join_right {b : Onset} {s t : State} (h : b.Allows s t) (a : Onset) :
    (a.join b).Allows s t := by
  cases a <;> cases b <;> first | exact h | trivial

/-- Groups make no difference. -/
lemma Allows.of_position {a : Onset} {s t u : State} (h : a.Allows s t)
    (hpassed : u.passed = t.passed) (hrest : u.rest = t.rest) : a.Allows s u := by
  cases a with
  | never => exact h
  | stays => exact ⟨hpassed.trans h.1, hrest.trans h.2⟩
  | moves => trivial

/-- After a match that takes nothing, the next one begins at the same character. -/
lemma Allows.trans {a b : Onset} {s t u : State} (hst : a.Allows s t)
    (htu : t.rest = s.rest → b.Allows t u) : (a.andThen b).Allows s u := by
  cases a with
  | never => exact hst
  | moves => trivial
  | stays =>
    have hb := htu hst.2
    cases b with
    | never => exact hb
    | stays => exact ⟨hb.1.trans hst.1, hb.2.trans hst.2⟩
    | moves => trivial

/-- Something matches at the position where it is asked for. -/
lemma Allows.asCondition {a : Onset} {s t u : State} (h : a.Allows s t)
    (hpassed : u.passed = s.passed) (hrest : u.rest = s.rest) : a.asCondition.Allows s u := by
  cases a with
  | never => exact h
  | stays => exact ⟨hpassed, hrest⟩
  | moves => exact ⟨hpassed, hrest⟩

/-- A state at the same position is among those allowed for if nothing has to be taken. -/
lemma allows_orNothing (a : Onset) {s t : State} (hpassed : t.passed = s.passed)
    (hrest : t.rest = s.rest) : a.orNothing.Allows s t := by
  have hstays : Onset.stays.Allows s t := ⟨hpassed, hrest⟩
  exact hstays.join_right a

end Onset

/-! ## Expressions -/

namespace Expr

/-- What is known of the matches of an expression at a character. -/
def onset (c : Char) : Expr → Bool → Onset
  | .empty, _ => .stays
  | .char d, fold => .ofTest (sameChar fold d c)
  | .any breaks, _ => .ofTest (breaks || c != '\n')
  | .set inverted members, fold => .ofTest (accepts fold inverted members c)
  | .anchor _, _ => .stays
  | .cat p q, fold => (onset c p fold).andThen (onset c q fold)
  | .alt p q, fold => (onset c p fold).join (onset c q fold)
  | .group _ p, fold => onset c p fold
  | .again _, _ => .moves
  | .loop least _ _ p, fold =>
    if least = 0 then (onset c p fold).orNothing else onset c p fold
  | .ahead p, fold => (onset c p fold).asCondition
  | .notAhead _, _ => .stays
  | .behind _ _, _ => .stays
  | .notBehind _ _, _ => .stays
  | .atomic p, fold => onset c p fold
  | .ifGroup _ yes no, fold => (onset c yes fold).join (onset c no fold)
  | .withCase fold p, _ => onset c p fold

/-- Taking one character. -/
private lemma allows_ofTest {test : Char → Bool} {c : Char} {rest : Text} {s t : State}
    (hs : s.rest = c :: rest) (h : s.TakesOne test t) : (Onset.ofTest (test c)).Allows s t := by
  obtain ⟨d, rest', hd, htest, _⟩ := h
  obtain ⟨rfl, _⟩ := List.cons.inj (hs.symm.trans hd)
  rw [htest]
  trivial

/-- Rounds of a loop: the first may take nothing, and then so may the others. -/
private lemma allows_iterates {R : State → State → Prop} {o : Onset} {c : Char} {rest : Text}
    (hround : ∀ s t, R s t → s.rest = c :: rest → o.Allows s t) :
    ∀ (n : Nat) (s t : State), Iterates R n s t → s.rest = c :: rest →
      (if n = 0 then Onset.stays else o).Allows s t := by
  intro n
  induction n with
  | zero =>
    rintro s t rfl _
    exact ⟨rfl, rfl⟩
  | succ n ih =>
    rintro s u ⟨t, hst, htu⟩ hs
    have hfirst := hround s t hst hs
    cases o with
    | never => exact hfirst.elim
    | moves => trivial
    | stays =>
      have hrest := ih t u htu (hfirst.2.trans hs)
      have hstays : Onset.stays.Allows t u := by
        split at hrest <;> exact hrest
      exact ⟨hstays.1.trans hfirst.1, hstays.2.trans hfirst.2⟩

/-- **The answer is right**: every match that begins at a character is among those allowed for.

**Proof sketch.** Induction on the expression, for all states that begin with the character. After a
part that takes nothing the next part begins at the same character, so that its answer can be used;
after a part of which nothing is known nothing is claimed. -/
theorem allows_onset {c : Char} {rest : Text} (e : Expr) :
    ∀ (fold : Bool) (s t : State), e.Takes fold s t → s.rest = c :: rest →
      (e.onset c fold).Allows s t := by
  induction e with
  | empty =>
    rintro _ s t rfl _
    exact ⟨rfl, rfl⟩
  | char d => exact fun fold s t h hs => allows_ofTest hs h
  | any breaks => exact fun _ s t h hs => allows_ofTest hs h
  | set inverted members => exact fun fold s t h hs => allows_ofTest hs h
  | anchor a =>
    rintro _ s t ⟨_, rfl⟩ _
    exact ⟨rfl, rfl⟩
  | cat p q hp hq =>
    rintro fold s u ⟨t, hst, htu⟩ hs
    exact (hp fold s t hst hs).trans fun hrest => hq fold t u htu (hrest.trans hs)
  | alt p q hp hq =>
    rintro fold s t (h | h) hs
    · exact (hp fold s t h hs).join_left _
    · exact (hq fold s t h hs).join_right _
  | group i p hp =>
    rintro fold s u ⟨t, hst, rfl⟩ hs
    exact (hp fold s t hst hs).of_position rfl rfl
  | again i => exact fun _ _ _ _ _ => trivial
  | loop least most reluctant p hp =>
    rintro fold s t ⟨n, hn, _, hiter⟩ hs
    have hrounds := allows_iterates (hp fold) n s t hiter hs
    simp only [onset]
    split
    · split at hrounds
      · exact Onset.allows_orNothing _ hrounds.1 hrounds.2
      · exact hrounds.join_left _
    · rwa [if_neg (by omega)] at hrounds
  | ahead p hp =>
    rintro fold s u ⟨t, hst, rfl⟩ hs
    exact (hp fold s t hst hs).asCondition rfl rfl
  | notAhead p _ =>
    rintro _ s t ⟨_, rfl⟩ _
    exact ⟨rfl, rfl⟩
  | behind width p _ =>
    rintro _ s u ⟨b, t, _, _, rfl⟩ _
    exact ⟨rfl, rfl⟩
  | notBehind width p _ =>
    rintro _ s t ⟨_, rfl⟩ _
    exact ⟨rfl, rfl⟩
  | atomic p hp => exact hp
  | ifGroup i yes no hyes hno =>
    intro fold s t h hs
    rw [Takes] at h
    split at h
    · exact (hyes fold s t h hs).join_left _
    · exact (hno fold s t h hs).join_right _
  | withCase fold p hp => exact fun _ => hp fold

/-- Whether an expression asks for the start of the text before anything else. -/
def isAnchored : Expr → Bool
  | .anchor .textStart => true
  | .cat p _ => p.isAnchored
  | .alt p q => p.isAnchored && q.isAnchored
  | .group _ p | .atomic p | .withCase _ p => p.isAnchored
  | _ => false

/-- An anchored expression matches at the start of the text only. -/
lemma passed_of_isAnchored (e : Expr) :
    ∀ (fold : Bool) (s t : State), e.isAnchored = true → e.Takes fold s t → s.passed = [] := by
  induction e with
  | anchor a =>
    rintro _ s t ha ⟨hholds, _⟩
    cases a <;> simp only [isAnchored, Bool.false_eq_true] at ha
    exact List.isEmpty_iff.mp hholds
  | cat p q hp _ =>
    rintro fold s u ha ⟨t, hst, _⟩
    exact hp fold s t ha hst
  | alt p q hp hq =>
    rintro fold s t ha (h | h)
    · exact hp fold s t (Bool.and_eq_true_iff.mp ha).1 h
    · exact hq fold s t (Bool.and_eq_true_iff.mp ha).2 h
  | group i p hp =>
    rintro fold s u ha ⟨t, hst, _⟩
    exact hp fold s t ha hst
  | atomic p hp => exact hp
  | withCase fold p hp => exact fun _ => hp fold
  | _ => simp [isAnchored]

end Expr

/-! ## Patterns -/

/-- An anchored pattern is not found in a text if no match begins at its start. -/
lemma find?_eq_none_of_isAnchored {p : Pattern} (hanchored : p.body.isAnchored = true) {text : Text}
    (h : ∀ t, ¬ p.body.Takes p.fold ⟨[], text, []⟩ t) : p.find? text = none := by
  rw [Option.eq_none_iff_forall_ne_some]
  intro found hfound
  obtain ⟨before, after, t, rfl, ht, _⟩ := exists_takes_of_find? hfound
  have hbefore := Expr.passed_of_isAnchored _ _ _ _ hanchored ht
  obtain rfl := List.reverse_eq_nil_iff.mp hbefore
  exact h t ht

/-- Whether a pattern is anchored and has no match that begins with a character. -/
def neverOpens (p : Pattern) (c : Char) : Bool :=
  p.body.isAnchored && p.body.onset c p.fold == .never

/-- **A pattern that cannot begin with a character** is not found in a text that begins with it. -/
theorem find?_eq_none_of_neverOpens {p : Pattern} {c : Char} (h : p.neverOpens c = true)
    (rest : Text) : p.find? (c :: rest) = none := by
  obtain ⟨hanchored, honset⟩ := Bool.and_eq_true_iff.mp h
  refine find?_eq_none_of_isAnchored hanchored fun t ht => ?_
  have hallows : (p.body.onset c p.fold).Allows _ t := Expr.allows_onset _ _ _ _ ht rfl
  rw [beq_iff_eq.mp honset] at hallows
  exact hallows

end DeclIndex.Pattern
