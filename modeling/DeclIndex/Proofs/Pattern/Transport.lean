import DeclIndex.Pattern.Match
import Mathlib.Tactic.Common

/-!
# Runs on a changed text

A text is changed by putting every character in another form and by putting other text in front. A
run on the changed text takes the same course as a run on the text itself, with all positions moved
by the length of what stands in front, if no part of its expression notices the change: characters
pass the same tests, and conditions hold at the same places. What an expression has to ask of the
change is collected over its parts (`Transport.Suits`), so that one induction serves all changes.

## Main definitions

* `Pattern.Transport` — a change of texts.
* `Pattern.Transport.state` — a position in the changed text.
* `Pattern.Transport.Commutes` — runs that take the same course.
* `Pattern.Transport.Suits` — a change that no part of an expression notices.

## Main results

* `Pattern.Transport.commutes_run` — a run takes the same course on the changed text.
-/

namespace DeclIndex.Pattern

/-- A change of texts: each character in another form, and other text in front, given nearest
first. -/
structure Transport where
  char : Char → Char
  front : Text

namespace Transport

variable {m : Transport}

/-- The span in the changed text. -/
def span (m : Transport) (s : Span) : Span :=
  ⟨s.start + m.front.length, s.stop + m.front.length⟩

/-- The spans of groups in the changed text. -/
def groups (m : Transport) (groups : List (Nat × Span)) : List (Nat × Span) :=
  groups.map fun g => (g.1, m.span g.2)

/-- The position in the changed text. -/
def state (m : Transport) (s : State) : State :=
  ⟨s.passed.map m.char ++ m.front, s.rest.map m.char, m.groups s.groups⟩

@[simp]
lemma position_state (s : State) : (m.state s).position = s.position + m.front.length := by
  simp [state, State.position]

@[simp]
lemma rest_state (s : State) : (m.state s).rest = s.rest.map m.char := rfl

/-- The span of a group in the changed text. -/
lemma lookup_groups (i : Nat) (groups : List (Nat × Span)) :
    (m.groups groups).lookup i = (groups.lookup i).map m.span := by
  induction groups with
  | nil => rfl
  | cons g groups ih =>
    rw [Transport.groups, List.map_cons, List.lookup_cons, List.lookup_cons]
    split
    · rfl
    · exact ih

/-- A continuation does the same to a changed text as another one does to the text itself. -/
def Follows (m : Transport) (k k' : Continuation) : Prop :=
  ∀ s : State, k' (m.state s) = (k s).map m.state

/-- A run that takes the same course on the changed text. -/
def Commutes (m : Transport) (body : Continuation → Continuation) : Prop :=
  ∀ k k', m.Follows k k' → m.Follows (body k) (body k')

/-- A change that no part of an expression notices: a character passes a test in its new form if it
does in the old one, and a condition holds if it does in the old text. A group that is matched again
is asked for the run itself, and before looking back there is nothing in front. -/
def Suits (m : Transport) : Expr → Bool → Prop
  | .empty, _ => True
  | .char c, fold => ∀ d, sameChar fold c (m.char d) = sameChar fold c d
  | .any breaks, _ => ∀ d, (breaks || m.char d != '\n') = (breaks || d != '\n')
  | .set inverted members, fold =>
    ∀ d, accepts fold inverted members (m.char d) = accepts fold inverted members d
  | .anchor a, _ => ∀ s, a.holds (m.state s) = a.holds s
  | .cat p q, fold => m.Suits p fold ∧ m.Suits q fold
  | .alt p q, fold => m.Suits p fold ∧ m.Suits q fold
  | .group _ p, fold => m.Suits p fold
  | .again i, fold => m.Commutes ((Expr.again i).run fold)
  | .loop _ _ _ p, fold => m.Suits p fold
  | .ahead p, fold => m.Suits p fold
  | .notAhead p, fold => m.Suits p fold
  | .behind _ p, fold => m.front = [] ∧ m.Suits p fold
  | .notBehind _ p, fold => m.front = [] ∧ m.Suits p fold
  | .atomic p, fold => m.Suits p fold
  | .ifGroup _ yes no, fold => m.Suits yes fold ∧ m.Suits no fold
  | .withCase fold p, _ => m.Suits p fold

/-! ## Parts of runs -/

/-- Taking one character by a test that does not notice the change. -/
lemma commutes_takeOne {test : Char → Bool} (htest : ∀ c, test (m.char c) = test c) :
    m.Commutes (takeOne test) := by
  rintro k k' hk ⟨passed, rest, groups⟩
  cases rest with
  | nil => rfl
  | cons c rest =>
    have hnext := hk ⟨c :: passed, rest, groups⟩
    simp only [state, List.map_cons, List.cons_append] at hnext ⊢
    rw [takeOne, takeOne, htest]
    split
    · exact hnext
    · rfl

/-- The required rounds of a loop. -/
lemma commutes_required {body : Continuation → Continuation} (hbody : m.Commutes body) (n : Nat) :
    m.Commutes (required body n) := by
  induction n with
  | zero => exact fun k k' hk => hk
  | succ n ih => exact fun k k' hk => hbody _ _ (ih _ _ hk)

/-- The further rounds of a loop. -/
lemma follows_further {body : Continuation → Continuation} (hbody : m.Commutes body)
    (reluctant : Bool) {k k' : Continuation} (hk : m.Follows k k') (n : Nat) :
    ∀ last : Option Nat, m.Follows (further body reluctant k n last)
      (further body reluctant k' n (last.map (· + m.front.length))) := by
  induction n with
  | zero => exact fun _ => hk
  | succ n ih =>
    intro last s
    have hround := hbody _ _ (ih (some s.position)) s
    have hlast : last.map (· + m.front.length) = some (m.state s).position ↔
        last = some s.position := by
      rw [position_state]
      cases last <;> simp
    rw [Option.map_some, ← position_state] at hround
    rw [further, further, hk, hround]
    simp only [hlast]
    split
    · rfl
    · split
      · cases k s <;> rfl
      · cases body (further body reluctant k n (some s.position)) s <;> rfl

/-- A step to the left, with nothing in front. -/
private lemma stepBack_map (m : Transport) (n : Nat) : ∀ passed rest : Text,
    State.stepBack n (passed.map m.char) (rest.map m.char) =
      (State.stepBack n passed rest).map fun p => (p.1.map m.char, p.2.map m.char) := by
  induction n with
  | zero => intro passed rest; rfl
  | succ n ih =>
    intro passed rest
    cases passed with
    | nil => rfl
    | cons c passed => exact ih passed (c :: rest)

/-- A run that begins some characters to the left. -/
private lemma bind_back? (hfront : m.front = []) {body : Continuation → Continuation}
    (hbody : m.Commutes body) (s : State) (width : Nat) :
    ((m.state s).back? width).bind (body some) =
      ((s.back? width).bind (body some)).map m.state := by
  have hback : (m.state s).back? width = (s.back? width).map m.state := by
    rw [State.back?, State.back?, state, hfront, List.append_nil, stepBack_map, Option.map_map,
      Option.map_map]
    congr 1
    funext p
    simp [state, hfront]
  rw [hback]
  cases s.back? width with
  | none => rfl
  | some b => exact hbody some some (fun _ => rfl) b

/-! ## Runs -/

/-- **A run takes the same course on the changed text** if no part of its expression notices the
change.

**Proof sketch.** Induction on the expression, for every continuation. A single character passes its
test in either form. Positions move by the same number, so that a loop finds out in either text
whether a round came forward. -/
theorem commutes_run (e : Expr) : ∀ {fold : Bool}, m.Suits e fold → m.Commutes (e.run fold) := by
  induction e with
  | empty => exact fun _ k k' hk => hk
  | char c => exact fun h => commutes_takeOne h
  | any breaks => exact fun h => commutes_takeOne h
  | set inverted members => exact fun h => commutes_takeOne h
  | anchor a =>
    intro _ h k k' hk s
    simp only [Expr.run]
    rw [h s, hk]
    split <;> rfl
  | cat p q hp hq => exact fun h k k' hk => hp h.1 _ _ (hq h.2 _ _ hk)
  | alt p q hp hq =>
    intro fold h k k' hk s
    simp only [Expr.run]
    rw [hp h.1 k k' hk, hq h.2 k k' hk]
    cases p.run fold k s <;> rfl
  | group i p hp =>
    intro fold h k k' hk s
    simp only [Expr.run]
    refine hp h _ _ (fun t => ?_) s
    rw [position_state, position_state, ← hk]
    rfl
  | again i => exact fun h => h
  | loop least most reluctant p hp =>
    intro fold h k k' hk s
    have hrounds : ∀ t : State, rounds least most (m.state t) = rounds least most t := by
      intro t
      cases most with
      | none => simp only [rounds, rest_state, List.length_map]
      | some m => rfl
    simp only [Expr.run]
    refine commutes_required (hp h) least _ _ (fun t => ?_) s
    rw [hrounds]
    exact follows_further (hp h) reluctant hk _ none t
  | ahead p hp =>
    intro fold h k k' hk s
    have hrun := hp h some some (fun _ => rfl) s
    simp only [Expr.run]
    rw [hrun]
    cases p.run fold some s with
    | none => rfl
    | some t => exact hk { s with groups := t.groups }
  | notAhead p hp =>
    intro fold h k k' hk s
    have hrun := hp h some some (fun _ => rfl) s
    simp only [Expr.run]
    rw [hrun]
    cases p.run fold some s with
    | none => exact hk s
    | some t => rfl
  | behind width p hp =>
    intro fold h k k' hk s
    have hrun := bind_back? h.1 (hp h.2) s width
    simp only [Expr.run]
    rw [hrun]
    cases (s.back? width).bind (p.run fold some) with
    | none => rfl
    | some t => exact hk { s with groups := t.groups }
  | notBehind width p hp =>
    intro fold h k k' hk s
    have hrun := bind_back? h.1 (hp h.2) s width
    simp only [Expr.run]
    rw [hrun]
    cases (s.back? width).bind (p.run fold some) with
    | none => exact hk s
    | some t => rfl
  | atomic p hp =>
    intro fold h k k' hk s
    have hrun := hp h some some (fun _ => rfl) s
    simp only [Expr.run]
    rw [hrun]
    cases p.run fold some s with
    | none => rfl
    | some t => exact hk t
  | ifGroup i yes no hyes hno =>
    intro fold h k k' hk s
    have hgroups : ((m.state s).groups.lookup i).isSome = (s.groups.lookup i).isSome := by
      rw [state, lookup_groups, Option.isSome_map]
    simp only [Expr.run, hgroups]
    split
    · exact hyes h.1 k k' hk s
    · exact hno h.2 k k' hk s
  | withCase fold p hp => exact fun h => hp h

end Transport

end DeclIndex.Pattern
