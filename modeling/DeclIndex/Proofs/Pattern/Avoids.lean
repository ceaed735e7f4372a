import DeclIndex.Proofs.Pattern.Consumes
import DeclIndex.Proofs.Pattern.Onset

/-!
# Characters that an expression does not pass

An expression none of whose parts accepts a character comes no further than that character, wherever
it stands in the text and whatever comes before it. So of a text that ends before such a character
any part may be taken, and what follows the expression goes on within that text or right after it.

## Main definitions

* `Pattern.Expr.avoids` — no part of the expression accepts the character.

## Main results

* `Pattern.Expr.exists_suffix_of_takes` — the expression does not pass a character that it avoids.
* `Pattern.Expr.stuckAt_cat_of_avoids` — nothing that may follow leads on.
-/

namespace DeclIndex.Pattern

/-- Whether no part of an expression accepts a character. Look-around keeps the position. -/
def Expr.avoids (c : Char) : Expr → Bool → Bool
  | .empty, _ => true
  | .char d, fold => !sameChar fold d c
  | .any breaks, _ => !(breaks || c != '\n')
  | .set inverted members, fold => !accepts fold inverted members c
  | .anchor _, _ => true
  | .cat p q, fold => p.avoids c fold && q.avoids c fold
  | .alt p q, fold => p.avoids c fold && q.avoids c fold
  | .group _ p, fold => p.avoids c fold
  | .again _, _ => false
  | .loop _ _ _ p, fold => p.avoids c fold
  | .ahead _, _ => true
  | .notAhead _, _ => true
  | .behind _ _, _ => true
  | .notBehind _ _, _ => true
  | .atomic p, fold => p.avoids c fold
  | .ifGroup _ yes no, fold => yes.avoids c fold && no.avoids c fold
  | .withCase fold p, _ => p.avoids c fold

/-- A relation between states takes only characters of a text that stands before a character for
which a test holds, or before the end. -/
def StaysBefore (R : State → State → Prop) (test : Char → Bool) : Prop :=
  ∀ ⦃s u : State⦄ ⦃t after : Text⦄, (∀ c ∈ after.head?, test c = true) → s.rest = t ++ after →
    R s u → ∃ v, v <:+ t ∧ u.rest = v ++ after

section Relations

variable {R S : State → State → Prop} {test test' : Char → Bool}

/-- A stronger test. -/
lemma StaysBefore.mono (h : StaysBefore R test) (htest : ∀ c, test' c = true → test c = true) :
    StaysBefore R test' :=
  fun _ _ _ _ hafter hs hst => h (fun c hc => htest c (hafter c hc)) hs hst

/-- Nothing is taken. -/
lemma staysBefore_of_rest (h : ∀ s u, R s u → u.rest = s.rest) : StaysBefore R test := by
  intro s u t after _ hs hsu
  exact ⟨t, List.suffix_refl t, (h s u hsu).trans hs⟩

/-- One character. -/
lemma staysBefore_takesOne (accepted : Char → Bool) :
    StaysBefore (State.TakesOne accepted) fun c => !accepted c := by
  rintro s u t after hafter hs ⟨c, rest, hrest, hc, rfl⟩
  cases t with
  | nil =>
    rw [List.nil_append, hrest] at hs
    have hnot : (!accepted c) = true := hafter c (by rw [← hs]; rfl)
    rw [hc] at hnot
    simp at hnot
  | cons d t =>
    obtain ⟨rfl, rfl⟩ := List.cons.inj (hrest.symm.trans hs)
    exact ⟨t, List.suffix_cons _ t, rfl⟩

/-- One after the other. -/
lemma StaysBefore.andThen (hR : StaysBefore R test) (hS : StaysBefore S test) :
    StaysBefore (fun s u => ∃ b, R s b ∧ S b u) test := by
  rintro s u t after hafter hs ⟨b, hsb, hbu⟩
  obtain ⟨v, hv, hb⟩ := hR hafter hs hsb
  obtain ⟨w, hw, hu⟩ := hS hafter hb hbu
  exact ⟨w, hw.trans hv, hu⟩

/-- Either of the two. -/
lemma StaysBefore.either (hR : StaysBefore R test) (hS : StaysBefore S test) :
    StaysBefore (fun s u => R s u ∨ S s u) test := by
  rintro s u t after hafter hs (hsu | hsu)
  · exact hR hafter hs hsu
  · exact hS hafter hs hsu

/-- The characters of a text, where there is nothing behind. -/
lemma staysBefore_takesText (fold : Bool) (w : Text) :
    StaysBefore (State.TakesText fold w) fun _ => false := by
  induction w with
  | nil => exact staysBefore_of_rest fun s u hsu => by rw [show u = s from hsu]
  | cons c w ih => exact ((staysBefore_takesOne _).mono (by simp)).andThen ih

/-- Any number of times. -/
lemma StaysBefore.iterates (hR : StaysBefore R test) (n : Nat) :
    StaysBefore (Iterates R n) test := by
  induction n with
  | zero => exact staysBefore_of_rest fun s u hsu => by rw [show u = s from hsu]
  | succ n ih => exact hR.andThen ih

end Relations

namespace Expr

variable {p q : Expr} {fold : Bool} {t after : Text}

/-- **An expression does not pass a character that it avoids.**

**Proof sketch.** Induction on the expression. Where a character is taken it is one of the text, since
the first one behind the text is avoided; a suffix of a suffix is a suffix. -/
theorem exists_suffix_of_takes (e : Expr) :
    ∀ fold, StaysBefore (e.Takes fold) fun c => e.avoids c fold := by
  induction e with
  | empty => exact fun _ => staysBefore_of_rest fun s u h => by rw [show u = s from h]
  | char c => exact fun fold => staysBefore_takesOne _
  | any breaks => exact fun _ => staysBefore_takesOne _
  | set inverted members => exact fun fold => staysBefore_takesOne _
  | anchor a => exact fun _ => staysBefore_of_rest fun s u h => by rw [h.2]
  | cat p q hp hq =>
    intro fold
    refine ((hp fold).mono fun c hc => ?_).andThen ((hq fold).mono fun c hc => ?_)
    · exact (Bool.and_eq_true_iff.mp hc).1
    · exact (Bool.and_eq_true_iff.mp hc).2
  | alt p q hp hq =>
    intro fold
    refine ((hp fold).mono fun c hc => ?_).either ((hq fold).mono fun c hc => ?_)
    · exact (Bool.and_eq_true_iff.mp hc).1
    · exact (Bool.and_eq_true_iff.mp hc).2
  | group i p hp =>
    rintro fold s u t after hafter hs ⟨b, hsb, rfl⟩
    obtain ⟨v, hv, hb⟩ := hp fold hafter hs hsb
    exact ⟨v, hv, hb⟩
  | again i =>
    rintro fold s u t after hafter hs ⟨w, _, hsu⟩
    exact staysBefore_takesText fold w hafter hs hsu
  | loop least most reluctant p hp =>
    rintro fold s u t after hafter hs ⟨n, _, _, hiter⟩
    exact (hp fold).iterates n hafter hs hiter
  | ahead p _ =>
    refine fun _ => staysBefore_of_rest ?_
    rintro s _ ⟨b, _, rfl⟩
    rfl
  | notAhead p _ => exact fun _ => staysBefore_of_rest fun s u h => by rw [h.2]
  | behind width p _ =>
    refine fun _ => staysBefore_of_rest ?_
    rintro s _ ⟨b, u, _, _, rfl⟩
    rfl
  | notBehind width p _ => exact fun _ => staysBefore_of_rest fun s u h => by rw [h.2]
  | atomic p hp => exact hp
  | ifGroup i yes no hyes hno =>
    intro fold s u t after hafter hs hsu
    rw [Takes] at hsu
    split at hsu
    · exact hyes fold (fun c hc => (Bool.and_eq_true_iff.mp (hafter c hc)).1) hs hsu
    · exact hno fold (fun c hc => (Bool.and_eq_true_iff.mp (hafter c hc)).2) hs hsu
  | withCase fold p hp => exact fun _ => hp fold

/-- After an expression that does not pass the end of a text, nothing leads on if nothing does within
the text and right after it. -/
lemma stuckAt_cat_of_avoids (hp : ∀ c ∈ after.head?, p.avoids c fold = true)
    (hq : ∀ v, v <:+ t → q.StuckAt fold (v ++ after)) :
    (Expr.cat p q).StuckAt fold (t ++ after) := by
  intro before groups
  refine isStuck_cat fun u hu => ?_
  obtain ⟨v, hv, hrest⟩ := p.exists_suffix_of_takes fold hp rfl hu
  exact StuckAt.isStuck (hrest ▸ hq v hv)

/-- An expression avoids what follows if it avoids the first character. -/
lemma avoids_head? {c : Char} (h : p.avoids c fold = true) :
    ∀ d ∈ (c :: after).head?, p.avoids d fold = true := by
  intro d hd
  obtain rfl := Option.some.inj hd
  exact h

/-- A text that ends before another begins with a character of its own or like the other. -/
lemma head?_suffix_append {test : Char → Bool} {v : Text} (hv : v <:+ t)
    (ht : ∀ c ∈ t, test c = false) (hafter : after.head?.any test = false) :
    (v ++ after).head?.any test = false := by
  cases v with
  | nil => exact hafter
  | cons c v => exact ht c (hv.subset List.mem_cons_self)

end Expr

end DeclIndex.Pattern
