import DeclIndex.Proofs.Pattern.Consumes
import DeclIndex.Proofs.Pattern.Transport

/-!
# White space in front

A pattern that begins at the start of the text and passes over white space there may be run on a
text with a space in front as well: what comes after the white space takes the same course, one
position further on, if it does not look back except for the edge of a word. A space is no word
character, so that such an edge is where it would be at the start of the text.

## Main definitions

* `Pattern.Expr.isForward` — an expression that does not look back, except for the edge of a word.
* `Pattern.Found.behindSpace` — a match in a text with a space in front.

## Main results

* `Pattern.find?_eq_matchStart?` — an anchored pattern matches at the start of a text.
* `Pattern.find?_cons_space` — the match in a text with a space in front.
-/

namespace DeclIndex.Pattern

open Pattern.Expr

/-! ## Anchored patterns -/

/-- An anchored pattern matches at the start of a text or nowhere. -/
lemma find?_eq_matchStart? {p : Pattern} (h : p.body.isAnchored = true) (t : Text) :
    p.find? t = p.matchStart? t := by
  cases t with
  | nil => rfl
  | cons c t =>
    have hlater : p.findFrom? [c] t = none := by
      rw [Option.eq_none_iff_forall_ne_some]
      intro found hfound
      obtain ⟨before, after, u, _, hu, _⟩ := exists_takes_of_findFrom? t [c] hfound
      have hpassed := passed_of_isAnchored _ _ _ _ h hu
      exact absurd hpassed (by simp)
    rw [find?, findFrom?, hlater, matchStart?]
    split
    · rename_i found hfound
      exact hfound.symm
    · rename_i hnone
      exact hnone.symm

/-! ## Leading white space -/

/-- A loop of which no round is there. -/
lemma run_many_of_isStuck {p : Expr} {fold : Bool} {s : State} (h : p.IsStuck fold s)
    (k : Continuation) : (many p).run fold k s = k s := by
  change further (p.run fold) false k (s.rest.length + 1) none s = k s
  rw [further, if_neg (by simp)]
  simp only [h.run_eq_none, Bool.false_eq_true, if_false]

/-- A loop over white space takes a space, unless what comes after the loop leads on from before the
space only. -/
lemma run_gap0_space {fold : Bool} {k : Continuation} {t : Text}
    (ht : t.head?.any Text.isBlank = false) (hk : k (.between [] (' ' :: t) []) = none) :
    gap0.run fold k (.between [] (' ' :: t) []) = k (.between [' '] t []) := by
  have hafter : t.head?.any (accepts fold false [.kind .blank false]) = false := by
    rwa [accepts_blank]
  have hstuck : blank.IsStuck fold (.between [' '] t []) := isStuck_set hafter
  cases hspace : k (.between [' '] t []) with
  | none =>
    rw [Option.eq_none_iff_forall_ne_some]
    intro r hr
    obtain ⟨u, ⟨n, _, _, hiter⟩, hu⟩ := gap0.exists_takes_of_run fold _ _ _ hr
    cases n with
    | zero =>
      obtain rfl : u = _ := hiter
      rw [hk] at hu
      simp at hu
    | succ n =>
      obtain ⟨b, ⟨c, rest, hrest, hc, rfl⟩, hiter⟩ := hiter
      obtain ⟨rfl, rfl⟩ := List.cons.inj (hrest.symm.trans (State.rest_between _ _ _))
      cases n with
      | zero =>
        obtain rfl : u = _ := hiter
        exact absurd (hspace.symm.trans hu) (by simp)
      | succ n =>
        obtain ⟨b, hb, _⟩ := hiter
        exact absurd hb (hstuck b)
  | some r =>
    have hfirst : gap0.First fold (.between [] ([' '] ++ t) []) (.between ([] ++ [' ']) t []) :=
      first_many_set (by rw [accepts_blank]; exact List.forall_mem_singleton.mpr rfl) hafter []
    exact hfirst k r hspace

/-! ## What comes after the white space -/

/-- Whether an expression does not look back, except for the edge of a word. -/
def Expr.isForward : Expr → Bool
  | .anchor a => a != .textStart && a != .lineStart && a != .noWordEdge
  | .cat p q | .alt p q | .ifGroup _ p q => p.isForward && q.isForward
  | .group _ p | .loop _ _ _ p | .ahead p | .notAhead p | .atomic p | .withCase _ p => p.isForward
  | .again _ | .behind _ _ | .notBehind _ _ => false
  | _ => true

/-- A space in front of a text. -/
def spaceInFront : Transport :=
  ⟨id, [' ']⟩

/-- An expression that does not look back does not notice a space in front. -/
lemma suits_spaceInFront (e : Expr) (he : e.isForward = true) :
    ∀ fold, spaceInFront.Suits e fold := by
  induction e with
  | empty => exact fun _ => trivial
  | char c => exact fun _ _ => rfl
  | any breaks => exact fun _ _ => rfl
  | set inverted members => exact fun _ _ => rfl
  | anchor a =>
    intro _ s
    have hrest : (spaceInFront.state s).rest = s.rest := List.map_id _
    have hpassed : (spaceInFront.state s).passed.head?.any Text.isWord =
        s.passed.head?.any Text.isWord := by
      rw [Transport.state, spaceInFront, List.map_id]
      cases s.passed <;> rfl
    cases a with
    | textStart | lineStart | noWordEdge => simp [isForward] at he
    | textEnd | lastLineEnd | lineEnd => simp only [Anchor.holds, hrest]
    | wordEdge => simp only [Anchor.holds, State.atWordEdge, hrest, hpassed]
  | cat p q hp hq | alt p q hp hq | ifGroup i p q hp hq =>
    obtain ⟨hpf, hqf⟩ := Bool.and_eq_true_iff.mp he
    exact fun fold => ⟨hp hpf fold, hq hqf fold⟩
  | group i p hp | loop least most reluctant p hp | ahead p hp | notAhead p hp | atomic p hp =>
    exact hp he
  | withCase fold p hp => exact fun _ => hp he fold
  | again i | behind width p _ | notBehind width p _ => simp [isForward] at he

/-- A match that begins with white space, in a text with one more space in front. -/
def Found.behindSpace (f : Found) : Found :=
  ⟨⟨f.span.start, f.span.stop + 1⟩, spaceInFront.groups f.groups⟩

/-- The text of a group, in a text with a space in front. -/
lemma textOf?_cons_space (p : Pattern) (found : Found) (t name : Text) :
    p.textOf? found.behindSpace (' ' :: t) name = p.textOf? found t name := by
  have hspan : p.spanOf? found.behindSpace name = (p.spanOf? found name).map spaceInFront.span := by
    rw [spanOf?, spanOf?]
    cases p.group? name with
    | none => rfl
    | some i => exact Transport.lookup_groups i found.groups
  rw [textOf?, textOf?, hspan, Option.map_map]
  congr 1
  funext span
  have hlength : span.stop + 1 - (span.start + 1) = span.stop - span.start := by omega
  rw [Function.comp_apply, Span.slice, Span.slice, Transport.span, spaceInFront]
  dsimp only [List.length_singleton]
  rw [hlength, List.drop_succ_cons]

/-- **The match in a text with a space in front**, for a pattern that begins with white space or
nothing at the start of the text: the same, one position further on, if what comes after the white
space does not look back and cannot begin with a space.

**Proof sketch.** On either text the white space is taken as far as it goes, since nothing leads on
before a space. From there the run takes the same course, the space in front not being noticed. -/
theorem find?_cons_space {p : Pattern} {parts : List Expr}
    (hbody : p.body = .cat start (.cat gap0 (.seq parts)))
    (hforward : (Expr.seq parts).isForward = true)
    (hstuck : ∀ t : Text, (Expr.seq parts).StuckAt p.fold (' ' :: t)) {t : Text}
    (ht : t.head?.any Text.isBlank = false) :
    p.find? (' ' :: t) = (p.find? t).map Found.behindSpace := by
  have hanchored : p.body.isAnchored = true := by rw [hbody]; rfl
  have hblank : blank.IsStuck p.fold (.between [] t []) := isStuck_set (by rwa [accepts_blank])
  have hstart : ∀ (k : Continuation) (t : Text),
      start.run p.fold k (.between [] t []) = k (.between [] t []) := fun _ _ => rfl
  have hspaced : p.body.run p.fold some (.between [] (' ' :: t) []) =
      (Expr.seq parts).run p.fold some (.between [' '] t []) := by
    rw [hbody, run, hstart, run]
    exact run_gap0_space ht ((hstuck t [] []).run_eq_none _)
  have hplain : p.body.run p.fold some (.between [] t []) =
      (Expr.seq parts).run p.fold some (.between [] t []) := by
    rw [hbody, run, hstart, run]
    exact run_many_of_isStuck hblank _
  have hcourse : (Expr.seq parts).run p.fold some (.between [' '] t []) =
      ((Expr.seq parts).run p.fold some (.between [] t [])).map spaceInFront.state := by
    have hcommutes := spaceInFront.commutes_run _ (suits_spaceInFront _ hforward p.fold) some some
      (fun _ => rfl) (.between [] t [])
    have hstate : spaceInFront.state (.between [] t []) = .between [' '] t [] := by
      have hsame : t.map spaceInFront.char = t := List.map_id t
      rw [Transport.state, State.rest_between, hsame]
      rfl
    rwa [hstate] at hcommutes
  have hmatch : ∀ t : Text, p.matchStart? t = (p.body.run p.fold some (.between [] t [])).map
      fun s => ⟨⟨0, s.position⟩, s.groups⟩ := fun _ => rfl
  rw [find?_eq_matchStart? hanchored, find?_eq_matchStart? hanchored, hmatch, hmatch, hspaced,
    hplain, hcourse, Option.map_map, Option.map_map]
  congr 1
  funext s
  simp [Found.behindSpace, Transport.state, State.position, spaceInFront]

end DeclIndex.Pattern
