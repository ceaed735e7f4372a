import DeclIndex.Pattern.Match
import Mathlib.Tactic.Common

/-!
# What an expression can take

Matching is defined by a run that looks for one match among many, with what follows as a
continuation. This module says which states an expression can lead to at all, without the search:
`Expr.Takes` is a relation between the state before and the state after, by recursion on the
expression. A run that succeeds has gone through such a state, and from there through its
continuation. What holds of every state that can be reached therefore holds of every match.

The relation does not say which of several states a run prefers, so that it is the tool for showing
that something does not match.

## Main definitions

* `Pattern.Iterates` — a relation applied a number of times.
* `Pattern.Expr.Takes` — the states that an expression can lead to.

## Main results

* `Pattern.Expr.exists_takes_of_run` — a run that succeeds goes through a state that its expression
  can lead to.
* `Pattern.exists_takes_of_find?` — a match that is found begins and ends at such states.
-/

namespace DeclIndex.Pattern

/-- A relation applied `n` times. -/
def Iterates {α : Type} (R : α → α → Prop) : Nat → α → α → Prop
  | 0, a, b => b = a
  | n + 1, a, c => ∃ b, R a b ∧ Iterates R n b c

/-- The state `t` follows `s` by one character that passes a test. -/
def State.TakesOne (test : Char → Bool) (s t : State) : Prop :=
  ∃ c rest, s.rest = c :: rest ∧ test c = true ∧ t = ⟨c :: s.passed, rest, s.groups⟩

/-- The state `t` follows `s` by the characters of a text, up to case with `fold`. -/
def State.TakesText (fold : Bool) : Text → State → State → Prop
  | [], s, t => t = s
  | c :: w, s, u =>
    ∃ t, s.TakesOne (fun d => if fold then Text.lowerChar c == Text.lowerChar d else c == d) t ∧
      TakesText fold w t u

namespace Expr

/-- The states that an expression can lead to. Look-around asks for a run, which has no
continuation; it keeps the position. -/
def Takes : Expr → Bool → State → State → Prop
  | .empty, _, s, t => t = s
  | .char c, fold, s, t => s.TakesOne (sameChar fold c) t
  | .any breaks, _, s, t => s.TakesOne (fun c => breaks || c != '\n') t
  | .set inverted members, fold, s, t => s.TakesOne (accepts fold inverted members) t
  | .anchor a, _, s, t => a.holds s = true ∧ t = s
  | .cat p q, fold, s, u => ∃ t, p.Takes fold s t ∧ q.Takes fold t u
  | .alt p q, fold, s, t => p.Takes fold s t ∨ q.Takes fold s t
  | .group i p, fold, s, u =>
    ∃ t, p.Takes fold s t ∧ u = { t with groups := (i, ⟨s.position, t.position⟩) :: t.groups }
  | .again i, fold, s, t => ∃ w, s.textOf? i = some w ∧ s.TakesText fold w t
  | .loop least most _ p, fold, s, t =>
    ∃ n, least ≤ n ∧ (∀ m, most = some m → n ≤ max least m) ∧ Iterates (p.Takes fold) n s t
  | .ahead p, fold, s, u => ∃ t, p.Takes fold s t ∧ u = { s with groups := t.groups }
  | .notAhead p, fold, s, t => p.run fold some s = none ∧ t = s
  | .behind width p, fold, s, u =>
    ∃ b t, s.back? width = some b ∧ p.Takes fold b t ∧ u = { s with groups := t.groups }
  | .notBehind width p, fold, s, t => (s.back? width).bind (p.run fold some) = none ∧ t = s
  | .atomic p, fold, s, t => p.Takes fold s t
  | .ifGroup i yes no, fold, s, t =>
    if (s.groups.lookup i).isSome then yes.Takes fold s t else no.Takes fold s t
  | .withCase fold p, _, s, t => p.Takes fold s t

end Expr

/-! ## Runs -/

/-- A run with a continuation that succeeds has come to a state at which the continuation
succeeds. -/
def Sound (body : Continuation → Continuation) (R : State → State → Prop) : Prop :=
  ∀ k s r, body k s = some r → ∃ t, R s t ∧ k t = some r

/-- Taking one character. -/
lemma sound_takeOne (test : Char → Bool) : Sound (takeOne test) (State.TakesOne test) := by
  rintro k ⟨passed, rest, groups⟩ r h
  cases rest with
  | nil => simp [takeOne] at h
  | cons c rest =>
    rw [takeOne] at h
    split at h
    · rename_i hc
      exact ⟨_, ⟨c, rest, rfl, hc, rfl⟩, h⟩
    · simp at h

/-- Taking the characters of a text. -/
lemma sound_takeText (fold : Bool) (w : Text) :
    Sound (takeText fold w) (State.TakesText fold w) := by
  induction w with
  | nil => exact fun k s r h => ⟨s, rfl, h⟩
  | cons c w ih =>
    intro k s r h
    obtain ⟨t, hst, ht⟩ := sound_takeOne _ _ _ _ h
    obtain ⟨u, htu, hu⟩ := ih _ _ _ ht
    exact ⟨u, ⟨t, hst, htu⟩, hu⟩

variable {body : Continuation → Continuation} {R : State → State → Prop}

/-- The required rounds of a loop. -/
lemma sound_required (hbody : Sound body R) (n : Nat) : Sound (required body n) (Iterates R n) := by
  induction n with
  | zero => exact fun k s r h => ⟨s, rfl, h⟩
  | succ n ih =>
    intro k s r h
    obtain ⟨t, hst, ht⟩ := hbody _ _ _ h
    obtain ⟨u, htu, hu⟩ := ih _ _ _ ht
    exact ⟨u, ⟨t, hst, htu⟩, hu⟩

/-- The further rounds of a loop: some number of them, up to the bound. -/
lemma exists_of_further (hbody : Sound body R) (reluctant : Bool) (k : Continuation) :
    ∀ (n : Nat) (last : Option Nat) (s r : State), further body reluctant k n last s = some r →
      ∃ m ≤ n, ∃ t, Iterates R m s t ∧ k t = some r := by
  intro n
  induction n with
  | zero =>
    intro last s r h
    exact ⟨0, Nat.le_refl 0, s, rfl, h⟩
  | succ n ih =>
    intro last s r h
    have hstop : k s = some r → ∃ m ≤ n + 1, ∃ t, Iterates R m s t ∧ k t = some r :=
      fun hk => ⟨0, Nat.zero_le _, s, rfl, hk⟩
    have hround : body (further body reluctant k n (some s.position)) s = some r →
        ∃ m ≤ n + 1, ∃ t, Iterates R m s t ∧ k t = some r := by
      intro hb
      obtain ⟨t, hst, ht⟩ := hbody _ _ _ hb
      obtain ⟨m, hm, u, htu, hu⟩ := ih _ _ _ ht
      exact ⟨m + 1, Nat.succ_le_succ hm, u, ⟨t, hst, htu⟩, hu⟩
    rw [further] at h
    split_ifs at h
    · exact hstop h
    · cases hk : k s with
      | some r' =>
        rw [hk] at h
        exact hstop (hk.trans h)
      | none =>
        rw [hk] at h
        exact hround h
    · cases hb : body (further body reluctant k n (some s.position)) s with
      | some r' =>
        rw [hb] at h
        exact hround (hb.trans h)
      | none =>
        rw [hb] at h
        exact hstop h

/-- Iterations one after the other. -/
lemma Iterates.add {α : Type} {R : α → α → Prop} {m n : Nat} :
    ∀ {a b c : α}, Iterates R m a b → Iterates R n b c → Iterates R (m + n) a c := by
  induction m with
  | zero =>
    rintro a b c rfl hbc
    rwa [Nat.zero_add]
  | succ m ih =>
    rintro a b c ⟨a', haa', hab⟩ hbc
    rw [Nat.succ_add]
    exact ⟨a', haa', ih hab hbc⟩

namespace Expr

-- The equations of `run` are derived here once, for the many proofs that open it.
attribute [local simp] run

/-- A loop: the required rounds, then further ones. -/
private lemma sound_loop {p : Expr} {fold : Bool} (hp : Sound (p.run fold) (p.Takes fold))
    (least : Nat) (most : Option Nat) (reluctant : Bool) :
    Sound ((loop least most reluctant p).run fold) ((loop least most reluctant p).Takes fold) := by
  intro k s r h
  have hbody : Sound (fun k => p.run fold k) (p.Takes fold) := hp
  obtain ⟨t, hst, ht⟩ := sound_required hbody least _ _ _ h
  obtain ⟨m, hm, u, htu, hu⟩ := exists_of_further hbody _ _ _ _ _ _ ht
  refine ⟨u, ⟨least + m, Nat.le_add_right _ _, ?_, hst.add htu⟩, hu⟩
  rintro bound rfl
  simp only [rounds] at hm
  omega

/-- **A run goes through a state that its expression can lead to**, and its continuation succeeds
there.

**Proof sketch.** Induction on the expression, for every continuation. Where a run tries two ways,
one of them has succeeded; a loop has gone through its required rounds and through some of the
further ones; look-around runs its expression to the end, and then goes on from where it stands. -/
theorem exists_takes_of_run (e : Expr) : ∀ fold, Sound (e.run fold) (e.Takes fold) := by
  induction e with
  | empty => exact fun _ k s r h => ⟨s, rfl, h⟩
  | char c => exact fun fold => sound_takeOne _
  | any breaks => exact fun _ => sound_takeOne _
  | set inverted members => exact fun fold => sound_takeOne _
  | anchor a =>
    intro _ k s r h
    simp only [run] at h
    split at h
    · rename_i ha
      exact ⟨s, ⟨ha, rfl⟩, h⟩
    · simp at h
  | cat p q hp hq =>
    intro fold k s r h
    obtain ⟨t, hst, ht⟩ := hp fold _ _ _ h
    obtain ⟨u, htu, hu⟩ := hq fold _ _ _ ht
    exact ⟨u, ⟨t, hst, htu⟩, hu⟩
  | alt p q hp hq =>
    intro fold k s r h
    simp only [run] at h
    split at h
    · rename_i r' hleft
      obtain ⟨t, hst, ht⟩ := hp fold _ _ _ hleft
      exact ⟨t, Or.inl hst, ht.trans h⟩
    · obtain ⟨t, hst, ht⟩ := hq fold _ _ _ h
      exact ⟨t, Or.inr hst, ht⟩
  | group i p hp =>
    intro fold k s r h
    obtain ⟨t, hst, ht⟩ := hp fold _ _ _ h
    exact ⟨_, ⟨t, hst, rfl⟩, ht⟩
  | again i =>
    intro fold k s r h
    simp only [run] at h
    split at h
    · rename_i w hw
      obtain ⟨t, hst, ht⟩ := sound_takeText fold w _ _ _ h
      exact ⟨t, ⟨w, hw, hst⟩, ht⟩
    · simp at h
  | loop least most reluctant p hp => exact fun fold => sound_loop (hp fold) least most reluctant
  | ahead p hp =>
    intro fold k s r h
    simp only [run] at h
    split at h
    · rename_i t' hrun
      obtain ⟨t, hst, ht⟩ := hp fold _ _ _ hrun
      cases ht
      exact ⟨_, ⟨t', hst, rfl⟩, h⟩
    · simp at h
  | notAhead p hp =>
    intro fold k s r h
    simp only [run] at h
    split at h
    · simp at h
    · rename_i hrun
      exact ⟨s, ⟨hrun, rfl⟩, h⟩
  | behind width p hp =>
    intro fold k s r h
    simp only [run] at h
    split at h
    · rename_i t' hrun
      obtain ⟨b, hb, hbt⟩ := Option.bind_eq_some_iff.mp hrun
      obtain ⟨t, hst, ht⟩ := hp fold _ _ _ hbt
      cases ht
      exact ⟨_, ⟨b, t', hb, hst, rfl⟩, h⟩
    · simp at h
  | notBehind width p hp =>
    intro fold k s r h
    simp only [run] at h
    split at h
    · simp at h
    · rename_i hrun
      exact ⟨s, ⟨hrun, rfl⟩, h⟩
  | atomic p hp =>
    intro fold k s r h
    simp only [run] at h
    split at h
    · rename_i t' hrun
      obtain ⟨t, hst, ht⟩ := hp fold _ _ _ hrun
      cases ht
      exact ⟨t', hst, h⟩
    · simp at h
  | ifGroup i yes no hyes hno =>
    intro fold k s r h
    simp only [run] at h
    split at h
    · rename_i hi
      obtain ⟨t, hst, ht⟩ := hyes fold _ _ _ h
      exact ⟨t, by rwa [Takes, if_pos hi], ht⟩
    · rename_i hi
      obtain ⟨t, hst, ht⟩ := hno fold _ _ _ h
      exact ⟨t, by rwa [Takes, if_neg hi], ht⟩
  | withCase fold p hp => exact fun _ => hp fold

end Expr

/-! ## Matches -/

/-- A match at a position leads from it to a state that the pattern can lead to. -/
lemma exists_takes_of_matchAt? {p : Pattern} {passed rest : Text} {found : Found}
    (h : p.matchAt? passed rest = some found) :
    ∃ t, p.body.Takes p.fold ⟨passed, rest, []⟩ t ∧
      found = ⟨⟨passed.length, t.position⟩, t.groups⟩ := by
  obtain ⟨t', ht', hfound⟩ := Option.map_eq_some_iff.mp h
  obtain ⟨t, ht, heq⟩ := p.body.exists_takes_of_run p.fold _ _ _ ht'
  cases heq
  exact ⟨t', ht, hfound.symm⟩

/-- A match that is found at or after a position begins somewhere in the rest of the text. -/
lemma exists_takes_of_findFrom? {p : Pattern} {found : Found} (rest : Text) :
    ∀ passed, p.findFrom? passed rest = some found →
      ∃ before after t, rest = before ++ after ∧
        p.body.Takes p.fold ⟨before.reverse ++ passed, after, []⟩ t ∧
        found = ⟨⟨(before.reverse ++ passed).length, t.position⟩, t.groups⟩ := by
  induction rest with
  | nil =>
    intro passed h
    obtain ⟨t, ht, hfound⟩ := exists_takes_of_matchAt? h
    exact ⟨[], [], t, rfl, ht, hfound⟩
  | cons c rest ih =>
    intro passed h
    rw [findFrom?] at h
    split at h
    · rename_i found' hhere
      obtain ⟨t, ht, hfound⟩ := exists_takes_of_matchAt? hhere
      exact ⟨[], c :: rest, t, rfl, ht, (Option.some.inj h).symm.trans hfound⟩
    · obtain ⟨before, after, t, hrest, ht, hfound⟩ := ih _ h
      have hpassed : (c :: before).reverse ++ passed = before.reverse ++ c :: passed := by simp
      refine ⟨c :: before, after, t, by rw [hrest]; rfl, ?_, ?_⟩
      · rwa [hpassed]
      · rwa [hpassed]

/-- **A match that is found** begins somewhere in the text and ends in a state that the pattern can
lead to from there. -/
lemma exists_takes_of_find? {p : Pattern} {text : Text} {found : Found}
    (h : p.find? text = some found) :
    ∃ before after t, text = before ++ after ∧
      p.body.Takes p.fold ⟨before.reverse, after, []⟩ t ∧
      found = ⟨⟨before.length, t.position⟩, t.groups⟩ := by
  obtain ⟨before, after, t, htext, ht, hfound⟩ := exists_takes_of_findFrom? text [] h
  rw [List.append_nil] at ht
  rw [List.append_nil, List.length_reverse] at hfound
  exact ⟨before, after, t, htext, ht, hfound⟩

end DeclIndex.Pattern
