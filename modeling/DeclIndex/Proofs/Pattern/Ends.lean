import DeclIndex.Proofs.Pattern.First
import DeclIndex.Proofs.Pattern.Onset
import Mathlib.Data.List.Forall2

/-!
# How far an expression can come in a known beginning

Of a text only the beginning may be known, and of that perhaps only which characters can stand at
each place. For an expression and such a beginning this module computes the numbers of characters
that the expression can take there, as long as it stays within what is known. The answer errs on the
side of caution. If it is that there is no such number, then the expression leads nowhere in any text
that begins so.

`Pattern.Expr.onset` answers the same for one known character, where the expression may go beyond it.

## Main definitions

* `Pattern.Beginning` — the characters that may stand at each of the first places of a text.
* `Pattern.Expr.ends` — the numbers of characters that an expression can take in a beginning.
* `Pattern.neverBegins` — an anchored pattern that leads nowhere in a beginning.

## Main results

* `Pattern.Expr.mem_ends` — the numbers are right.
* `Pattern.find?_eq_none_of_neverBegins` — such a pattern is not found.
-/

namespace DeclIndex.Pattern

/-! ## Beginnings -/

/-- What is known of the beginning of a text: the characters that may stand at each place. -/
abbrev Beginning := List Text

namespace Beginning

/-- The beginning of which every character is known. -/
def ofText (t : Text) : Beginning :=
  t.map fun c => [c]

/-- A text that begins as is known. -/
def Fits (w : Beginning) (t : Text) : Prop :=
  ∃ u rest, t = u ++ rest ∧ List.Forall₂ (fun cs c => c ∈ cs) w u

/-- A text with a known beginning. -/
lemma fits_ofText (t rest : Text) : (ofText t).Fits (t ++ rest) := by
  refine ⟨t, rest, rfl, ?_⟩
  induction t with
  | nil => exact .nil
  | cons c t ih => exact .cons List.mem_cons_self ih

/-- A known beginning, and one of some characters after it. -/
lemma fits_ofText_append {cs : Text} {c : Char} (hc : c ∈ cs) (t rest : Text) :
    (ofText t ++ [cs]).Fits (t ++ c :: rest) := by
  obtain ⟨u, _, heq, hu⟩ := fits_ofText t []
  obtain rfl : t = u := by
    have hlength : t.length = u.length := by
      rw [← hu.length_eq, ofText, List.length_map]
    exact (List.append_inj heq hlength).1
  exact ⟨t ++ [c], rest, by simp, List.rel_append hu (.cons hc .nil)⟩

/-- What is known after some characters. -/
lemma Fits.drop {w : Beginning} {t : Text} (h : w.Fits t) {n : Nat} (hn : n ≤ w.length) :
    Fits (w.drop n) (t.drop n) := by
  obtain ⟨u, rest, rfl, hu⟩ := h
  refine ⟨u.drop n, rest, ?_, List.forall₂_drop n hu⟩
  exact List.drop_append_of_le_length (by rwa [← hu.length_eq])

/-- The first character of a text whose beginning is known. -/
lemma Fits.head {cs : Text} {w : Beginning} {t : Text} (h : Fits (cs :: w) t) :
    ∃ c rest, t = c :: rest ∧ c ∈ cs := by
  obtain ⟨u, rest, rfl, hu⟩ := h
  cases hu with
  | cons hc _ => exact ⟨_, _, rfl, hc⟩

end Beginning

/-! ## Numbers of characters -/

/-- One character that passes a test, if the first place is known. -/
def endsOne (test : Char → Bool) : Beginning → Option (List Nat)
  | [] => none
  | cs :: _ => some (if cs.any test then [1] else [])

/-- After each of some numbers of characters, the numbers that follow. -/
def endsAfter (next : Nat → Option (List Nat)) : List Nat → Option (List Nat)
  | [] => some []
  | n :: ns =>
    match next n, endsAfter next ns with
    | some ms, some more => some (ms.map (n + ·) ++ more)
    | _, _ => none

/-- Of two ways the numbers of either. -/
def endsEither : Option (List Nat) → Option (List Nat) → Option (List Nat)
  | some ns, some ms => some (ns ++ ms)
  | _, _ => none

/-- Up to `n` rounds that take characters; what more rounds would take is `last`. -/
def endsOfRounds (round : Beginning → Option (List Nat)) (last : Option (List Nat)) :
    Nat → Beginning → Option (List Nat)
  | 0, _ => last
  | n + 1, w =>
    (round w).bind fun ns =>
      (endsAfter (fun m => endsOfRounds round last n (w.drop m)) (ns.filter (0 < ·))).map (0 :: ·)

/-- Any allowed number of rounds. -/
def endsOfLoop (round : Beginning → Option (List Nat)) (least : Nat) (most : Option Nat)
    (w : Beginning) : Option (List Nat) :=
  match most with
  | some m => endsOfRounds round (some [0]) (max least m) w
  | none => endsOfRounds round none (w.length + 1) w

namespace Expr

/-- The numbers of characters that an expression can take in a beginning; none if it may go beyond
what is known. -/
def ends : Expr → Bool → Beginning → Option (List Nat)
  | .empty, _, _ => some [0]
  | .char c, fold, w => endsOne (sameChar fold c) w
  | .any breaks, _, w => endsOne (fun c => breaks || c != '\n') w
  | .set inverted members, fold, w => endsOne (accepts fold inverted members) w
  | .anchor _, _, _ => some [0]
  | .cat p q, fold, w => (p.ends fold w).bind (endsAfter fun n => q.ends fold (w.drop n))
  | .alt p q, fold, w => endsEither (p.ends fold w) (q.ends fold w)
  | .group _ p, fold, w => p.ends fold w
  | .again _, _, _ => none
  | .loop least most _ p, fold, w =>
    if least = 0 then endsOfLoop (p.ends fold) least most w
    else (p.ends fold w).bind (endsAfter fun n => endsOfLoop (p.ends fold) least most (w.drop n))
  | .ahead p, fold, w => if p.ends fold w = some [] then some [] else some [0]
  | .notAhead _, _, _ => some [0]
  | .behind _ _, _, _ => some [0]
  | .notBehind _ _, _, _ => some [0]
  | .atomic p, fold, w => p.ends fold w
  | .ifGroup _ yes no, fold, w => endsEither (yes.ends fold w) (no.ends fold w)
  | .withCase fold p, _, w => p.ends fold w

end Expr

/-! ## The numbers are right -/

/-- A relation between states takes one of some numbers of characters in a beginning. -/
def TakesAmong (R : State → State → Prop) (ends : Beginning → Option (List Nat)) : Prop :=
  ∀ {w : Beginning} {ns : List Nat} {s t : State}, ends w = some ns → w.Fits s.rest → R s t →
    ∃ n ∈ ns, n ≤ w.length ∧ t.rest = s.rest.drop n

/-- The numbers after one of some numbers of characters are among all that follow. -/
lemma mem_endsAfter {next : Nat → Option (List Nat)} {ns all : List Nat}
    (h : endsAfter next ns = some all) {n : Nat} (hn : n ∈ ns) :
    ∃ ms, next n = some ms ∧ ∀ m ∈ ms, n + m ∈ all := by
  induction ns generalizing all with
  | nil => exact absurd hn List.not_mem_nil
  | cons a ns ih =>
    rw [endsAfter] at h
    split at h
    · rename_i ms more hms hmore
      cases h
      rcases List.mem_cons.mp hn with rfl | hn
      · exact ⟨ms, hms, fun m hm => List.mem_append_left _ (List.mem_map_of_mem hm)⟩
      · obtain ⟨ms', hms', hall⟩ := ih hmore hn
        exact ⟨ms', hms', fun m hm => List.mem_append_right _ (hall m hm)⟩
    · simp at h

/-- The numbers of either of two ways. -/
lemma mem_endsEither {a b : Option (List Nat)} {all : List Nat} (h : endsEither a b = some all) :
    ∃ ns ms, a = some ns ∧ b = some ms ∧ ∀ n, n ∈ ns ∨ n ∈ ms → n ∈ all := by
  cases a with
  | none => simp [endsEither] at h
  | some ns =>
    cases b with
    | none => simp [endsEither] at h
    | some ms =>
      cases h
      exact ⟨ns, ms, rfl, rfl, fun n hn => List.mem_append.mpr hn⟩

/-- Taking one character. -/
lemma takesAmong_one (test : Char → Bool) : TakesAmong (State.TakesOne test) (endsOne test) := by
  rintro w ns s t h hw ⟨c, rest, hrest, hc, rfl⟩
  cases w with
  | nil => simp [endsOne] at h
  | cons cs w =>
    obtain ⟨d, rest', hd, hmem⟩ := hw.head
    rw [hrest] at hd
    cases hd
    have hany : cs.any test = true := List.any_eq_true.mpr ⟨c, hmem, hc⟩
    rw [endsOne, hany] at h
    cases h
    exact ⟨1, List.mem_singleton_self 1, by simp, by rw [hrest]; rfl⟩

/-- One after the other. -/
lemma TakesAmong.andThen {R S : State → State → Prop} {first second : Beginning → Option (List Nat)}
    (hR : TakesAmong R first) (hS : TakesAmong S second) :
    TakesAmong (fun s u => ∃ t, R s t ∧ S t u) fun w =>
      (first w).bind (endsAfter fun n => second (w.drop n)) := by
  rintro w all s u h hw ⟨t, hst, htu⟩
  obtain ⟨ns, hns, hall⟩ := Option.bind_eq_some_iff.mp h
  obtain ⟨n, hn, hle, ht⟩ := hR hns hw hst
  obtain ⟨ms, hms, hmem⟩ := mem_endsAfter hall hn
  have hrest : Beginning.Fits (w.drop n) t.rest := ht ▸ hw.drop hle
  obtain ⟨m, hm, hmle, hu⟩ := hS hms hrest htu
  refine ⟨n + m, hmem m hm, ?_, ?_⟩
  · rw [List.length_drop] at hmle
    omega
  · rw [hu, ht, List.drop_drop]

/-- Rounds of a loop. A round that takes nothing can be left out; one that takes characters uses up
one of the rounds that are allowed for.

**Proof sketch.** Induction on the number of rounds, for every number `fuel` of rounds that are
allowed for. If more are allowed for than the beginning has places, or at least as many as are
made, the last resort is not reached. -/
lemma takesAmong_rounds {R : State → State → Prop} {round : Beginning → Option (List Nat)}
    (hR : TakesAmong R round) (last : Option (List Nat)) (k : Nat) :
    ∀ (fuel : Nat) {w : Beginning} {ns : List Nat} {s t : State},
      last = none ∨ (last = some [0] ∧ k ≤ fuel) →
      endsOfRounds round last fuel w = some ns → w.Fits s.rest → Iterates R k s t →
      ∃ n ∈ ns, n ≤ w.length ∧ t.rest = s.rest.drop n := by
  induction k with
  | zero =>
    rintro fuel w ns s t hlast h _ rfl
    cases fuel with
    | zero =>
      rw [endsOfRounds] at h
      rcases hlast with hlast | ⟨hlast, _⟩
      · rw [hlast] at h
        simp at h
      · rw [hlast] at h
        cases h
        exact ⟨0, List.mem_singleton_self 0, Nat.zero_le _, rfl⟩
    | succ fuel =>
      obtain ⟨ms, _, hms⟩ := Option.bind_eq_some_iff.mp h
      obtain ⟨more, _, rfl⟩ := Option.map_eq_some_iff.mp hms
      exact ⟨0, List.mem_cons_self, Nat.zero_le _, rfl⟩
  | succ k ih =>
    rintro fuel w ns s u hlast h hw ⟨t, hst, htu⟩
    cases fuel with
    | zero =>
      rw [endsOfRounds] at h
      rcases hlast with hlast | ⟨_, hle⟩
      · rw [hlast] at h
        simp at h
      · omega
    | succ fuel =>
      obtain ⟨ms, hround, hms⟩ := Option.bind_eq_some_iff.mp h
      obtain ⟨more, hmore, hns⟩ := Option.map_eq_some_iff.mp hms
      obtain ⟨m, hm, hle, ht⟩ := hR hround hw hst
      cases m with
      | zero =>
        have hfits : w.Fits t.rest := ht ▸ hw
        have hlast' : last = none ∨ (last = some [0] ∧ k ≤ fuel + 1) :=
          hlast.imp_right fun hl => ⟨hl.1, Nat.le_of_succ_le hl.2⟩
        obtain ⟨n, hn, hnle, hu⟩ := ih (fuel + 1) hlast' h hfits htu
        exact ⟨n, hn, hnle, by rw [hu, ht, List.drop_zero]⟩
      | succ m =>
        have hfits : Beginning.Fits (w.drop (m + 1)) t.rest := ht ▸ hw.drop hle
        have hlast' : last = none ∨ (last = some [0] ∧ k ≤ fuel) :=
          hlast.imp_right fun hl => ⟨hl.1, Nat.le_of_succ_le_succ hl.2⟩
        have hfilter : m + 1 ∈ ms.filter (0 < ·) := List.mem_filter.mpr ⟨hm, by simp⟩
        obtain ⟨ns', hns', hall⟩ := mem_endsAfter hmore hfilter
        obtain ⟨n, hn, hnle, hu⟩ := ih fuel hlast' hns' hfits htu
        refine ⟨m + 1 + n, ?_, ?_, ?_⟩
        · rw [← hns]
          exact List.mem_cons_of_mem _ (hall n hn)
        · rw [List.length_drop] at hnle
          omega
        · rw [hu, ht, List.drop_drop]

/-- A loop, as far as its bounds go. -/
lemma takesAmong_loop {R : State → State → Prop} {round : Beginning → Option (List Nat)}
    (hR : TakesAmong R round) (least : Nat) (most : Option Nat) (k : Nat)
    (hk : ∀ m, most = some m → k ≤ max least m) :
    TakesAmong (Iterates R k) (endsOfLoop round least most) := by
  intro w ns s t h hw hst
  cases most with
  | none => exact takesAmong_rounds hR none k _ (Or.inl rfl) h hw hst
  | some m => exact takesAmong_rounds hR (some [0]) k _ (Or.inr ⟨rfl, hk m rfl⟩) h hw hst

/-- **The numbers are right**: in a text that begins as is known, an expression takes one of the
numbers of characters that are computed.

**Proof sketch.** Induction on the expression. What follows a part is looked for in what is known
after it. -/
theorem Expr.mem_ends (e : Expr) : ∀ fold, TakesAmong (e.Takes fold) (e.ends fold) := by
  have hstay : ∀ {w : Beginning} {s t : State}, t.rest = s.rest →
      ∃ n ∈ [0], n ≤ w.length ∧ t.rest = s.rest.drop n :=
    fun h => ⟨0, List.mem_singleton_self 0, Nat.zero_le _, h⟩
  induction e with
  | empty =>
    rintro _ w ns s t h _ rfl
    cases h
    exact hstay rfl
  | char c => exact fun fold => takesAmong_one _
  | any breaks => exact fun _ => takesAmong_one _
  | set inverted members => exact fun fold => takesAmong_one _
  | anchor a =>
    rintro _ w ns s t h _ ⟨_, rfl⟩
    cases h
    exact hstay rfl
  | cat p q hp hq => exact fun fold => TakesAmong.andThen (hp fold) (hq fold)
  | alt p q hp hq =>
    intro fold w all s t h hw hst
    obtain ⟨ns, ms, hns, hms, hall⟩ := mem_endsEither h
    rcases hst with hst | hst
    · obtain ⟨n, hn, hle, ht⟩ := hp fold hns hw hst
      exact ⟨n, hall n (Or.inl hn), hle, ht⟩
    · obtain ⟨n, hn, hle, ht⟩ := hq fold hms hw hst
      exact ⟨n, hall n (Or.inr hn), hle, ht⟩
  | group i p hp =>
    rintro fold w ns s u h hw ⟨t, hst, rfl⟩
    obtain ⟨n, hn, hle, ht⟩ := hp fold h hw hst
    exact ⟨n, hn, hle, ht⟩
  | again i =>
    intro _ w ns s t h
    simp [ends] at h
  | loop least most reluctant p hp =>
    rintro fold w ns s t h hw ⟨k, hk, hmost, hst⟩
    rw [ends] at h
    split at h
    · exact takesAmong_loop (hp fold) least most k hmost h hw hst
    · cases k with
      | zero => omega
      | succ k =>
        have hbound : ∀ m, most = some m → k ≤ max least m :=
          fun m hm => Nat.le_of_succ_le (hmost m hm)
        exact TakesAmong.andThen (hp fold) (takesAmong_loop (hp fold) least most k hbound) h hw hst
  | ahead p hp =>
    rintro fold w ns s u h hw ⟨t, hst, rfl⟩
    rw [ends] at h
    split at h
    · rename_i hnone
      obtain ⟨n, hn, _⟩ := hp fold hnone hw hst
      exact absurd hn List.not_mem_nil
    · cases h
      exact hstay rfl
  | notAhead p _ =>
    rintro _ w ns s t h _ ⟨_, rfl⟩
    cases h
    exact hstay rfl
  | behind width p _ =>
    rintro _ w ns s u h _ ⟨b, t, _, _, rfl⟩
    cases h
    exact hstay rfl
  | notBehind width p _ =>
    rintro _ w ns s t h _ ⟨_, rfl⟩
    cases h
    exact hstay rfl
  | atomic p hp => exact hp
  | ifGroup i yes no hyes hno =>
    intro fold w all s t h hw hst
    obtain ⟨ns, ms, hns, hms, hall⟩ := mem_endsEither h
    rw [Takes] at hst
    split at hst
    · obtain ⟨n, hn, hle, ht⟩ := hyes fold hns hw hst
      exact ⟨n, hall n (Or.inl hn), hle, ht⟩
    · obtain ⟨n, hn, hle, ht⟩ := hno fold hms hw hst
      exact ⟨n, hall n (Or.inr hn), hle, ht⟩
  | withCase fold p hp => exact fun _ => hp fold

/-- An expression that can take no number of characters in a beginning leads nowhere. -/
lemma Expr.isStuck_of_ends {e : Expr} {fold : Bool} {w : Beginning} {s : State}
    (h : e.ends fold w = some []) (hw : w.Fits s.rest) : e.IsStuck fold s := by
  intro t ht
  obtain ⟨n, hn, _⟩ := e.mem_ends fold h hw ht
  exact absurd hn List.not_mem_nil

/-! ## Patterns -/

/-- Whether a pattern is anchored and leads nowhere in a beginning. -/
def neverBegins (p : Pattern) (w : Beginning) : Bool :=
  p.body.isAnchored && p.body.ends p.fold w == some []

/-- **A pattern that cannot begin so** is not found in a text that begins so. -/
theorem find?_eq_none_of_neverBegins {p : Pattern} {w : Beginning} (h : p.neverBegins w = true)
    {text : Text} (hw : w.Fits text) : p.find? text = none := by
  obtain ⟨hanchored, hends⟩ := Bool.and_eq_true_iff.mp h
  exact find?_eq_none_of_isAnchored hanchored (Expr.isStuck_of_ends (beq_iff_eq.mp hends) hw)

/-- A pattern whose expression leads nowhere in a beginning has no match at the start. -/
lemma matchStart?_eq_none_of_ends {p : Pattern} {w : Beginning} (h : p.body.ends p.fold w = some [])
    {text : Text} (hw : w.Fits text) : p.matchStart? text = none := by
  have hstuck : p.body.IsStuck p.fold ⟨[], text, []⟩ := Expr.isStuck_of_ends h hw
  rw [matchStart?, matchAt?, hstuck.run_eq_none]
  rfl

end DeclIndex.Pattern
