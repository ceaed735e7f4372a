import DeclIndex.Profile.Classify
import DeclIndex.Proofs.Text.Letter
import DeclIndex.Proofs.Text.Loop

/-!
# Attributes at the start of a line

Attributes are stripped from the start of a line by a loop. Each pass takes off what the pattern for
attributes matches there and the white space after it. A match that takes nothing ends the loop like
a missing one, so that a pattern that matches the empty text does not keep it running.

A line therefore comes apart into attributes, each with the white space after it, and a text at
whose start the pattern matches nothing more. This text is what is left, and nothing is stripped
from it.

## Main definitions

* `Profile.passAttribute` — one pass of the loop.
* `Profile.IsAttributeOf` — the attribute that a line begins with.
* `Profile.AttributesBefore` — attributes one after the other in front of a text.
* `Profile.IsClear` — a line that begins with no attribute.

## Main results

* `Profile.eval_passAttribute` — the loop ends.
* `Profile.stripAttributes_eq_iff` — what is left of a line.
* `Profile.stripAttributes_to_fixed_point` — stripping ends where nothing more is stripped.
-/

namespace DeclIndex.Profile

open Text
open Relation (ReflTransGen)
open StateTransition (Reaches eval mem_eval)

variable {p : Profile} {line next rest : Text}

/-! ## What a line begins with -/

/-- The text that the pattern for attributes matches at the start of a line, if it is not empty. -/
def IsAttributeOf (p : Profile) (line m : Text) : Prop :=
  m ≠ [] ∧ ∃ one ∈ p.attributes, ∃ found ∈ one.matchStart? line, found.span.slice line = m

/-- At the start of a line the pattern for attributes matches nothing, or the empty text. -/
def IsClear (p : Profile) (line : Text) : Prop :=
  ∀ one ∈ p.attributes, ∀ found ∈ one.matchStart? line, found.span.slice line = []

/-- Attributes in front of a text, each found at the start of what is there from it on and followed
by all the white space that comes before what is next. -/
inductive AttributesBefore (p : Profile) (rest : Text) : Text → Prop
  | nil : AttributesBefore p rest []
  | cons {m blanks more : Text} (begins : p.IsAttributeOf (m ++ blanks ++ (more ++ rest)) m)
      (blank : ∀ c ∈ blanks, isBlank c = true) (head : (more ++ rest).head?.any isBlank = false)
      (further : AttributesBefore p rest more) : AttributesBefore p rest (m ++ blanks ++ more)

/-- A match at the start of a line takes a beginning of the line. -/
lemma slice_of_matchStart? {one : Pattern} {found : Pattern.Found}
    (h : one.matchStart? line = some found) :
    found.span.slice line = line.take found.span.stop := by
  obtain ⟨s, -, rfl⟩ := Option.map_eq_some_iff.mp h
  rfl

/-- After attributes no white space is left. -/
lemma AttributesBefore.eq_nil_or {removed : Text} (h : p.AttributesBefore rest removed) :
    removed = [] ∨ rest.head?.any isBlank = false := by
  induction h with
  | nil => exact Or.inl rfl
  | cons _ _ head _ ih =>
    right
    rcases ih with rfl | hrest
    · exact head
    · exact hrest

/-! ## The loop -/

/-- A line after one pass of the loop, or nothing if no further pass is needed. -/
def passAttribute (p : Profile) (line : Text) : Option Text :=
  if line.isEmpty then none
  else
    p.attributes.bind fun one => (one.matchStart? line).bind fun found =>
      if found.span.stop = 0 then none else some (trimStart (line.drop found.span.stop))

/-- A pass takes off the attribute that a line begins with and the white space after it. -/
lemma passAttribute_eq_some_iff : p.passAttribute line = some next ↔
    ∃ m blanks, p.IsAttributeOf line m ∧ line = m ++ blanks ++ next ∧
      (∀ c ∈ blanks, isBlank c = true) ∧ next.head?.any isBlank = false := by
  have hpass : p.passAttribute line = some next ↔ line ≠ [] ∧ ∃ one ∈ p.attributes,
      ∃ found ∈ one.matchStart? line, found.span.stop ≠ 0 ∧
        trimStart (line.drop found.span.stop) = next := by
    simp [passAttribute, Option.bind_eq_some_iff]
  rw [hpass]
  constructor
  · rintro ⟨hline, one, hone, found, hfound, hstop, rfl⟩
    refine ⟨line.take found.span.stop, (line.drop found.span.stop).takeWhile isBlank,
      ⟨?_, one, hone, found, hfound, slice_of_matchStart? hfound⟩, ?_,
      fun c hc => List.mem_takeWhile_imp hc, any_head?_trimStart _⟩
    · simp [hstop, hline]
    · rw [List.append_assoc, trimStart, List.takeWhile_append_dropWhile, List.take_append_drop]
  · rintro ⟨m, blanks, ⟨hne, one, hone, found, hfound, hm⟩, hsplit, hblank, hhead⟩
    rw [slice_of_matchStart? hfound] at hm
    have hdrop : line.drop found.span.stop = blanks ++ next := by
      have happend : m ++ line.drop found.span.stop = m ++ (blanks ++ next) := by
        rw [← List.append_assoc, ← hsplit, ← hm, List.take_append_drop]
      exact List.append_cancel_left happend
    refine ⟨?_, one, hone, found, hfound, ?_, by rw [hdrop, trimStart_append hblank hhead]⟩
    · rintro rfl
      exact hne (by rw [← hm, List.take_nil])
    · intro hstop
      exact hne (by rw [← hm, hstop, List.take_zero])

/-- No further pass is needed where a line begins with no attribute. -/
lemma passAttribute_eq_none_iff : p.passAttribute line = none ↔ p.IsClear line := by
  rw [← not_iff_not, ← Ne, Option.ne_none_iff_exists']
  constructor
  · rintro ⟨next, hnext⟩ hclear
    obtain ⟨m, _, ⟨hne, one, hone, found, hfound, hm⟩, _⟩ := passAttribute_eq_some_iff.mp hnext
    exact hne (hm.symm.trans (hclear one hone found hfound))
  · intro hclear
    simp only [IsClear, not_forall] at hclear
    obtain ⟨one, hone, found, hfound, hne⟩ := hclear
    rw [slice_of_matchStart? hfound, List.take_eq_nil_iff, not_or] at hne
    exact ⟨trimStart (line.drop found.span.stop), by
      simp [passAttribute, Option.mem_def.mp hone, Option.mem_def.mp hfound, hne]⟩

/-- A pass makes a line shorter. -/
lemma length_lt_of_passAttribute (h : p.passAttribute line = some next) :
    next.length < line.length := by
  obtain ⟨m, blanks, ⟨hne, _⟩, rfl, _⟩ := passAttribute_eq_some_iff.mp h
  have hpos : 0 < m.length := List.length_pos_iff.mpr hne
  simp only [List.length_append]
  omega

/-- **The loop ends**, whatever the pattern. -/
lemma eval_passAttribute (p : Profile) (line : Text) :
    eval p.passAttribute line = Part.some (p.stripAttributes line) := by
  unfold stripAttributes
  cases hone : p.attributes with
  | none => exact eval_of_none (by simp [passAttribute, hone])
  | some one =>
    refine eval_eq_some (fun _ => rfl) (fun n line => ?_)
      (fun line next => length_lt_of_passAttribute) le_rfl
    rw [stripAttributesBy, passAttribute, hone, Option.bind_some]
    cases one.matchStart? line with
    | none => simp
    | some found =>
      dsimp only
      rw [Option.bind_some]
      by_cases hempty : line.isEmpty = true
      · simp [hempty]
      · by_cases hstop : found.span.stop = 0
        · simp [hempty, hstop]
        · simp [hempty, hstop]

/-! ## What is left -/

/-- Passes lead to what stands behind attributes. -/
lemma reaches_passAttribute_iff : Reaches p.passAttribute line rest ↔
    ∃ removed, line = removed ++ rest ∧ p.AttributesBefore rest removed := by
  constructor
  · intro h
    induction h using ReflTransGen.head_induction_on with
    | refl => exact ⟨[], rfl, .nil⟩
    | head hpass _ ih =>
      obtain ⟨more, rfl, hmore⟩ := ih
      obtain ⟨m, blanks, hm, hline, hblank, hhead⟩ := passAttribute_eq_some_iff.mp hpass
      rw [hline] at hm
      exact ⟨m ++ blanks ++ more, by rw [hline, List.append_assoc _ more], .cons hm hblank hhead hmore⟩
  · rintro ⟨removed, rfl, h⟩
    induction h with
    | nil => exact ReflTransGen.refl
    | cons begins blank head _ ih =>
      rw [List.append_assoc]
      exact ih.head (passAttribute_eq_some_iff.mpr ⟨_, _, begins, rfl, blank, head⟩)

/-- **What is left of a line** is the text behind its attributes that begins with no attribute. -/
theorem stripAttributes_eq_iff : p.stripAttributes line = rest ↔
    (∃ removed, line = removed ++ rest ∧ p.AttributesBefore rest removed) ∧ p.IsClear rest := by
  rw [← reaches_passAttribute_iff, ← passAttribute_eq_none_iff, ← mem_eval, eval_passAttribute,
    Part.mem_some_iff, eq_comm]

/-- What is left of a line is an end of it. -/
lemma stripAttributes_isSuffix (p : Profile) (line : Text) : p.stripAttributes line <:+ line := by
  obtain ⟨⟨removed, hsplit, _⟩, _⟩ := stripAttributes_eq_iff.mp (Eq.refl (p.stripAttributes line))
  exact ⟨removed, hsplit.symm⟩

/-- The lines from which nothing is stripped are those that begin with no attribute. -/
lemma stripAttributes_eq_self_iff : p.stripAttributes line = line ↔ p.IsClear line :=
  ⟨fun h => (stripAttributes_eq_iff.mp h).2,
    fun h => stripAttributes_eq_iff.mpr ⟨⟨[], rfl, .nil⟩, h⟩⟩

/-- **Stripping attributes ends where nothing more is stripped**, for every pattern, also for one
that matches the empty text. The loop ends. What is left is an end of the line, in front of which
stand attributes, none of them empty and each with the white space after it. At its start the pattern
matches nothing or the empty text, and there is no white space unless the whole line is left.
Stripping it again changes nothing.

**Proof sketch.** A pass makes the line shorter, since a match that takes nothing is none for the
loop (`eval_passAttribute`). Where the loop ends no attribute is found (`stripAttributes_eq_iff`),
so that a further run would end at once. -/
theorem stripAttributes_to_fixed_point (p : Profile) (line : Text) :
    eval p.passAttribute line = Part.some (p.stripAttributes line) ∧
      (∃ removed, line = removed ++ p.stripAttributes line ∧
        p.AttributesBefore (p.stripAttributes line) removed ∧
        (removed = [] ∨ (p.stripAttributes line).head?.any isBlank = false)) ∧
      p.IsClear (p.stripAttributes line) ∧
      p.stripAttributes (p.stripAttributes line) = p.stripAttributes line := by
  obtain ⟨⟨removed, hsplit, hremoved⟩, hclear⟩ :=
    stripAttributes_eq_iff.mp (Eq.refl (p.stripAttributes line))
  exact ⟨eval_passAttribute p line, ⟨removed, hsplit, hremoved, hremoved.eq_nil_or⟩, hclear,
    stripAttributes_eq_self_iff.mpr hclear⟩

/-- A pattern that matches the empty text where no attribute stands. -/
example :
    ({ name := "toy", extensions := [], rules := [],
       attributes := some ⟨.opt ["@", .some1 .wordChar], [], 0, false⟩ } : Profile).stripAttributes
      "@a@b  @c d @e" = "d @e" := by
  decide +kernel

end DeclIndex.Profile
