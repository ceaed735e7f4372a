import DeclIndex.Language.Pascal
import DeclIndex.Proofs.Profile.Site

/-!
# The window of a line

What a line declares, its comment and its number apart, is read off the line and the lines just
below it: a confirmation is looked for in the rest of the line or within the lookahead of its rule,
and no rule looks further ahead than `maxLookahead` lines. So two lines of any two texts declare the
same if the windows that begin with them are equal. A profile without confirmations needs the line
alone.

## Main definitions

* `Element.bare` — an element without its comment and its line number.

## Main results

* `Profile.classify?_bare` — the line and the lines within the lookahead settle what is declared.
* `Profile.elementAt?_window` — equal windows declare the same.
-/

namespace DeclIndex

/-- An element without its comment and its line number: the kind, the name, the visibility, the
supertype and the introducing word. -/
def Element.bare (e : Element) : Element :=
  { e with documentation := [], line := 0 }

namespace Profile

variable {p : Profile}

/-- A confirmation is looked for within the lookahead. -/
lemma confirmation?_window {confirm : Pattern} {n : Nat} {below below' : List Text}
    (h : below.take n = below'.take n) (tail : Text) :
    p.confirmation? confirm n tail below = p.confirmation? confirm n tail below' := by
  unfold confirmation?
  rw [h]

/-- What a match declares is settled by the line and, if the rule asks for a confirmation, by the
lines within its lookahead. -/
lemma elementOf?_bare {rule : Rule} {s t : Site} (hline : s.line = t.line)
    (hbelow : rule.confirm ≠ none → s.below.take rule.lookahead = t.below.take rule.lookahead)
    (found : Pattern.Found) (line : Text) :
    (p.elementOf? rule found s line).map Element.bare =
      (p.elementOf? rule found t line).map Element.bare := by
  unfold elementOf?
  dsimp only
  rw [hline]
  split
  · rfl
  · cases hconfirm : rule.confirm with
    | none => rfl
    | some confirm =>
      have hwindow := hbelow (by rw [hconfirm]; exact Option.some_ne_none confirm)
      dsimp only
      rw [confirmation?_window hwindow, Option.map_map, Option.map_map]
      rfl

/-- The same of the first rule that applies. -/
lemma applyRules_bare {s t : Site} (hline : s.line = t.line) (line : Text) {rules : List Rule}
    (hbelow : ∀ rule ∈ rules, rule.confirm ≠ none →
      s.below.take rule.lookahead = t.below.take rule.lookahead) :
    (p.applyRules s line rules).map Element.bare =
      (p.applyRules t line rules).map Element.bare := by
  induction rules with
  | nil => rfl
  | cons rule rules ih =>
    have htail := ih fun r hr => hbelow r (List.mem_cons_of_mem _ hr)
    rw [applyRules, applyRules, hline]
    split
    · exact htail
    · cases rule.pattern.find? line with
      | some found => exact elementOf?_bare hline (hbelow rule List.mem_cons_self) found line
      | none =>
        dsimp only
        split
        · rfl
        · exact htail

/-- **What a line declares**, its comment and its number apart, is settled by the line and by the
lines within the lookahead of the rules that ask for a confirmation. -/
lemma classify?_bare {s t : Site} (hline : s.line = t.line)
    (hbelow : ∀ rule ∈ p.rules, rule.confirm ≠ none →
      s.below.take rule.lookahead = t.below.take rule.lookahead) :
    (p.classify? s).map Element.bare = (p.classify? t).map Element.bare := by
  unfold classify?
  rw [hline]
  cases p.code? t.line with
  | none => rfl
  | some line => exact applyRules_bare hline line hbelow

/-- The same by index: equal lines, and equal lines below them within the lookahead of every rule
that asks for a confirmation, declare the same. -/
lemma elementAt?_bare {lines lines' : List Text} {i i' : Nat} (hline : lines[i]? = lines'[i']?)
    (hbelow : ∀ rule ∈ p.rules, rule.confirm ≠ none →
      (lines.drop (i + 1)).take rule.lookahead = (lines'.drop (i' + 1)).take rule.lookahead) :
    (p.elementAt? lines i).map Element.bare = (p.elementAt? lines' i').map Element.bare := by
  rw [elementAt?_eq_bind, elementAt?_eq_bind, hline]
  cases lines'[i']? with
  | none => rfl
  | some line => exact classify?_bare rfl hbelow

/-- Equal windows begin with equal lines and hold equal lines below them. -/
lemma window_eq {α : Type} {l l' : List α} {i i' n : Nat}
    (h : (l.drop i).take (n + 1) = (l'.drop i').take (n + 1)) :
    l[i]? = l'[i']? ∧ (l.drop (i + 1)).take n = (l'.drop (i' + 1)).take n := by
  constructor
  · have hhead := congrArg (·[0]?) h
    simpa using hhead
  · have htail := congrArg (List.drop 1) h
    rwa [List.drop_take, List.drop_take, List.drop_drop, List.drop_drop] at htail

/-- **Only a bounded window is read.** Let two lines of any two texts begin equal windows of eleven
lines, or windows that are cut short alike by the end of the text. Then both lines declare nothing,
or both declare the same up to the comment and the line number. If no rule asks for a confirmation,
it is enough that the two lines are equal.

**Proof sketch.** The lines around a line are read for its comment, for its number and for the
confirmation of a match. A confirmation is looked for within the lookahead of its rule, which is
capped at ten lines. -/
theorem elementAt?_window (p : Profile) (lines lines' : List Text) (i i' : Nat) :
    ((lines.drop i).take 11 = (lines'.drop i').take 11 →
      (p.elementAt? lines i).map Element.bare = (p.elementAt? lines' i').map Element.bare) ∧
    ((∀ rule ∈ p.rules, rule.confirm = none) → lines[i]? = lines'[i']? →
      (p.elementAt? lines i).map Element.bare = (p.elementAt? lines' i').map Element.bare) := by
  constructor
  · intro hwindow
    obtain ⟨hline, hbelow⟩ := window_eq hwindow
    refine elementAt?_bare hline fun rule _ _ => ?_
    have hcap : rule.lookahead ≤ 10 := rule.lookahead_le
    have hcut := congrArg (List.take rule.lookahead) hbelow
    rwa [List.take_take, List.take_take, Nat.min_eq_left hcap] at hcut
  · intro hrules hline
    exact elementAt?_bare hline fun rule hrule hconfirm => absurd (hrules rule hrule) hconfirm

/-- A Pascal type whose body stands at the end of the window, below comments, and a function. The
line below the window, which differs, is not read. -/
theorem elementAt?_window_pascal :
    (Language.pascal.elementAt?
      (["// One.", "TPoint ="] ++ List.replicate 9 "// ..." ++ ["record", "x: Integer;"])
        1).map Element.bare =
      (Language.pascal.elementAt?
        (["TPoint ="] ++ List.replicate 9 "// ..." ++ ["record", "end;"]) 0).map Element.bare ∧
    (Language.pascal.elementAt?
      (["TPoint ="] ++ List.replicate 9 "// ..." ++ ["record", "end;"]) 0).isSome = true ∧
    (∀ rule ∈ (Language.pascal.rules.filter fun r => r.confirm.isNone), rule.confirm = none) ∧
    ({ Language.pascal with
        rules := Language.pascal.rules.filter fun r => r.confirm.isNone }.elementAt?
      ["function F: Integer;"] 0).map Element.bare =
      ({ Language.pascal with
        rules := Language.pascal.rules.filter fun r => r.confirm.isNone }.elementAt?
      ["// Two.", "function F: Integer;", "begin"] 1).map Element.bare := by
  have hrules : ∀ rule ∈ (Language.pascal.rules.filter fun r => r.confirm.isNone),
      rule.confirm = none := by
    intro rule hrule
    exact Option.isNone_iff_eq_none.mp (List.mem_filter.mp hrule).2
  exact ⟨(elementAt?_window _ _ _ 1 0).1 (by decide +kernel), by decide +kernel, hrules,
    (elementAt?_window _ _ _ 0 1).2 hrules rfl⟩

end Profile

end DeclIndex
