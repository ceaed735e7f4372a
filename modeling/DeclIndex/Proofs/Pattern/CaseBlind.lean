import DeclIndex.Pattern.Word
import DeclIndex.Proofs.Pattern.Transport
import DeclIndex.Proofs.Text.AsciiLower

/-!
# Patterns to which case makes no difference

A pattern that is run without regard to case asks of a character only what is the same for both
forms of a letter of ASCII. So a run on a text with its capitals made small takes the same course:
the same places are tried in the same order, and a match has the same spans. The texts of its groups
are those of the original text with their capitals made small.

## Main definitions

* `Pattern.Expr.isCaseBlind` — an expression in which no part tells case apart again.
* `Pattern.isCaseBlind` — a pattern that is run without regard to case throughout.
* `Pattern.lowering` — making capitals small, as a change of texts.

## Main results

* `Pattern.Expr.run_asciiLower` — a run commutes with ASCII lower case.
* `Pattern.find?_asciiLower` — the leftmost match has the same spans in either case.
-/

namespace DeclIndex.Pattern

open Text

/-! ## Expressions without case -/

/-- Whether no part of an expression tells case apart again. -/
def Expr.isCaseBlind : Expr → Bool
  | .withCase fold p => fold && p.isCaseBlind
  | .cat p q | .alt p q | .ifGroup _ p q => p.isCaseBlind && q.isCaseBlind
  | .group _ p | .loop _ _ _ p | .ahead p | .notAhead p | .behind _ p | .notBehind _ p
  | .atomic p => p.isCaseBlind
  | _ => true

/-- Whether a pattern is run without regard to case throughout. -/
def isCaseBlind (p : Pattern) : Bool :=
  p.fold && p.body.isCaseBlind

/-! ## Single characters -/

/-- A character agrees with both forms of a letter or with none. -/
lemma sameChar_toLower (c d : Char) : sameChar true c d.toLower = sameChar true c d := by
  simp only [sameChar, if_true, agree, lowerChar_toLower]

/-- A class of characters holds both forms of a letter or none. -/
lemma CharKind.holds_toLower (k : CharKind) (c : Char) : k.holds c.toLower = k.holds c := by
  cases k with
  | word => exact isWord_toLower c
  | digit => exact isDigit_toLower c
  | blank => exact isBlank_toLower c

/-- A member of a class lists both forms of a letter or none. -/
lemma Member.lists_toLower (m : Member) (c : Char) : m.lists true c.toLower = m.lists true c := by
  cases m with
  | char d => simp [Member.lists, agree, lowerChar_toLower]
  | range first last => simp [Member.lists, caseVariants, lowerChar_toLower]
  | kind k inverted => simp only [Member.lists, CharKind.holds_toLower]

/-- A class accepts both forms of a letter or none. -/
lemma accepts_toLower (inverted : Bool) (members : List Member) (c : Char) :
    accepts true inverted members c.toLower = accepts true inverted members c := by
  simp only [accepts, Member.lists_toLower]

/-! ## Positions -/

namespace State

/-- The same position in the text with its capitals made small. -/
def asciiLower (s : State) : State :=
  ⟨Text.asciiLower s.passed, Text.asciiLower s.rest, s.groups⟩

@[simp]
lemma position_asciiLower (s : State) : s.asciiLower.position = s.position :=
  length_asciiLower s.passed

/-- The text of a group. -/
lemma textOf?_asciiLower (s : State) (i : Nat) :
    s.asciiLower.textOf? i = (s.textOf? i).map Text.asciiLower := by
  unfold textOf? asciiLower
  dsimp only
  rw [← asciiLower_reverse, ← asciiLower_append, Option.map_map]
  congr 1
  funext span
  rw [Function.comp_apply, Span.slice, Span.slice, asciiLower_take, asciiLower_drop]

end State

/-- A line feed has no other form. -/
private lemma toLower_eq_lineFeed (c : Char) : (c.toLower = '\n') = (c = '\n') :=
  apply_toLower (f := fun c => c = '\n') (by decide) c

/-- A condition on the position holds in either case. -/
lemma Anchor.holds_asciiLower (a : Anchor) (s : State) : a.holds s.asciiLower = a.holds s := by
  obtain ⟨passed, rest, groups⟩ := s
  have hhead : ∀ t : Text, ((Text.asciiLower t).head? == some '\n') = (t.head? == some '\n') := by
    rintro (_ | ⟨c, t⟩)
    · rfl
    · rw [Bool.eq_iff_iff]
      simp [toLower_eq_lineFeed]
  have hsingle : (Text.asciiLower rest == ['\n']) = (rest == ['\n']) := by
    rcases rest with _ | ⟨c, _ | ⟨d, rest⟩⟩
    · rfl
    · rw [Bool.eq_iff_iff]
      simp [toLower_eq_lineFeed]
    · rw [Bool.eq_iff_iff]
      simp
  have hedge : State.atWordEdge ⟨Text.asciiLower passed, Text.asciiLower rest, groups⟩ =
      State.atWordEdge ⟨passed, rest, groups⟩ := by
    simp only [State.atWordEdge, any_head?_asciiLower isWord_toLower]
  cases a <;>
    simp only [Anchor.holds, State.asciiLower, isEmpty_asciiLower, hhead, hsingle, hedge]

/-! ## Runs -/

/-- A continuation does the same to a text with its capitals made small as another one does to the
text itself. -/
def Follows (k k' : Continuation) : Prop :=
  ∀ s : State, k' s.asciiLower = (k s).map State.asciiLower

/-- A run in which case makes no difference. -/
def CaseBlind (body : Continuation → Continuation) : Prop :=
  ∀ k k', Follows k k' → Follows (body k) (body k')

/-- Making capitals small, as a change of texts. -/
def lowering : Transport :=
  ⟨Char.toLower, []⟩

lemma state_lowering : lowering.state = State.asciiLower := by
  funext s
  have hgroups : lowering.groups s.groups = s.groups := List.map_id _
  rw [Transport.state, hgroups, lowering, List.append_nil]
  rfl

/-- Taking the characters of a text up to case. -/
private lemma follows_takeText {k k' : Continuation} (hk : lowering.Follows k k') (t : Text) :
    lowering.Follows (takeText true t k) (takeText true (asciiLower t) k') := by
  induction t with
  | nil => exact hk
  | cons c t ih =>
    rw [asciiLower_cons, takeText, takeText, lowerChar_toLower]
    refine Transport.commutes_takeOne (fun d => ?_) _ _ ih
    rw [if_pos rfl, if_pos rfl, lowering, lowerChar_toLower]

/-- An expression that never tells case apart does not notice that capitals are made small. -/
lemma suits_lowering (e : Expr) (he : e.isCaseBlind = true) : lowering.Suits e true := by
  induction e with
  | empty => trivial
  | char c => exact sameChar_toLower c
  | any breaks =>
    intro c
    simp only [lowering, bne, beq_eq_decide, toLower_eq_lineFeed]
  | set inverted members => exact accepts_toLower inverted members
  | anchor a =>
    intro s
    rw [state_lowering, Anchor.holds_asciiLower]
  | cat p q hp hq | alt p q hp hq | ifGroup i p q hp hq =>
    exact (Bool.and_eq_true_iff.mp he).imp hp hq
  | group i p hp | loop least most reluctant p hp | ahead p hp | notAhead p hp | atomic p hp =>
    exact hp he
  | again i =>
    intro k k' hk s
    simp only [Expr.run]
    rw [state_lowering, State.textOf?_asciiLower, ← state_lowering]
    cases s.textOf? i with
    | none => rfl
    | some t => exact follows_takeText hk t s
  | behind width p hp | notBehind width p hp => exact ⟨rfl, hp he⟩
  | withCase fold p hp =>
    obtain ⟨hfold, hpb⟩ := Bool.and_eq_true_iff.mp he
    subst hfold
    exact hp hpb

/-- **A run commutes with ASCII lower case** if its expression never tells case apart.

**Proof sketch.** Making capitals small is a change of texts that no part of the expression notices:
a single character passes its test in either form, conditions and groups go by positions, which
stay, and a group that is matched again is compared up to case. -/
theorem Expr.run_asciiLower (e : Expr) (he : e.isCaseBlind = true) : CaseBlind (e.run true) := by
  intro k k' hk
  have hcommutes := lowering.commutes_run e (suits_lowering e he)
  simp only [Transport.Commutes, Transport.Follows, state_lowering] at hcommutes
  exact hcommutes k k' hk

/-! ## Matches -/

variable {p : Pattern}

/-- A match at a position has the same spans in either case. -/
lemma matchAt?_asciiLower (hp : p.isCaseBlind = true) (passed rest : Text) :
    p.matchAt? (asciiLower passed) (asciiLower rest) = p.matchAt? passed rest := by
  obtain ⟨hfold, hbody⟩ := Bool.and_eq_true_iff.mp hp
  have hrun := p.body.run_asciiLower hbody some some (fun _ => rfl) ⟨passed, rest, []⟩
  unfold matchAt?
  rw [hfold, length_asciiLower]
  rw [State.asciiLower] at hrun
  rw [hrun, Option.map_map]
  congr 1
  funext s
  rw [Function.comp_apply, State.position_asciiLower]
  rfl

/-- The match at the start of a text. -/
lemma matchStart?_asciiLower (hp : p.isCaseBlind = true) (t : Text) :
    p.matchStart? (asciiLower t) = p.matchStart? t :=
  matchAt?_asciiLower hp [] t

/-- **The leftmost match has the same spans in either case.** -/
theorem find?_asciiLower (hp : p.isCaseBlind = true) (t : Text) :
    p.find? (asciiLower t) = p.find? t := by
  have hfrom : ∀ rest passed : Text, p.findFrom? (asciiLower passed) (asciiLower rest) =
      p.findFrom? passed rest := by
    intro rest
    induction rest with
    | nil => intro passed; exact matchAt?_asciiLower hp passed []
    | cons c rest ih =>
      intro passed
      have hnext := ih (c :: passed)
      have hhere := matchAt?_asciiLower hp passed (c :: rest)
      rw [asciiLower_cons] at hnext hhere
      rw [asciiLower_cons, findFrom?, findFrom?, hnext, hhere]
  exact hfrom t []

/-- A pattern occurs in either case. -/
lemma occursIn_asciiLower (hp : p.isCaseBlind = true) (t : Text) :
    p.occursIn (asciiLower t) = p.occursIn t := by
  rw [occursIn, occursIn, find?_asciiLower hp]

/-- The text of a group, in the text with its capitals made small. -/
lemma textOf?_asciiLower (p : Pattern) (found : Found) (t name : Text) :
    p.textOf? found (asciiLower t) name = (p.textOf? found t name).map asciiLower := by
  unfold textOf?
  rw [Option.map_map]
  congr 1
  funext span
  rw [Function.comp_apply, Span.slice, Span.slice, asciiLower_take, asciiLower_drop]

/-! ## Whole words -/

/-- Parts one after the other tell no case apart again if none of them does. -/
private lemma isCaseBlind_seq {parts : List Expr} (h : ∀ e ∈ parts, e.isCaseBlind = true) :
    (Expr.seq parts).isCaseBlind = true := by
  induction parts using Expr.seq.induct with
  | case1 => rfl
  | case2 p => exact h p List.mem_cons_self
  | case3 p q rest ih =>
    rw [Expr.seq, Expr.isCaseBlind, h p List.mem_cons_self,
      ih fun e he => h e (List.mem_cons_of_mem _ he)]
    rfl

/-- Alternatives tell no case apart again if none of them does. -/
private lemma isCaseBlind_oneOf {parts : List Expr} (h : ∀ e ∈ parts, e.isCaseBlind = true) :
    (Expr.oneOf parts).isCaseBlind = true := by
  induction parts using Expr.oneOf.induct with
  | case1 => rfl
  | case2 p => exact h p List.mem_cons_self
  | case3 p q rest ih =>
    rw [Expr.oneOf, Expr.isCaseBlind, h p List.mem_cons_self,
      ih fun e he => h e (List.mem_cons_of_mem _ he)]
    rfl

/-- **Words that are looked for without regard to case** are found in either case. -/
lemma isCaseBlind_of_ofWords {words : List Text} {m : Pattern} (h : ofWords true words = some m) :
    m.isCaseBlind = true := by
  have hword : ∀ w : Text, (Expr.word w).isCaseBlind = true := by
    intro w
    refine isCaseBlind_seq fun e he => ?_
    obtain ⟨c, _, rfl⟩ := List.mem_map.mp he
    rfl
  have hwords : (Expr.oneOf ((longestFirst words).map .word)).isCaseBlind = true := by
    refine isCaseBlind_oneOf fun e he => ?_
    obtain ⟨w, _, rfl⟩ := List.mem_map.mp he
    exact hword w
  unfold ofWords at h
  split at h
  · simp at h
  · cases h
    simp only [isCaseBlind, alone, Expr.seq, Expr.isCaseBlind, hwords]
    rfl

end DeclIndex.Pattern
