import DeclIndex.Pattern.Word
import DeclIndex.Proofs.Path
import DeclIndex.Proofs.Pattern.Reads

/-!
# Words in writing

The pattern for a list of words can be written down: every character that could mean something else
gets a backslash, and the words are the alternatives of a group between two conditions. Reading what
is written gives the pattern for the words, whatever their characters are.

## Main definitions

* `Pattern.escape` — a text as it is written in a pattern.
* `Pattern.writtenWords` — the pattern for some words, in writing.

## Main results

* `Pattern.reads_escape` — an escaped text is read as its characters.
* `Pattern.reads_alternatives` — escaped texts between bars are read as alternatives.
* `Pattern.read_writtenWords` — what is written for some words is the pattern for them.
-/

namespace DeclIndex.Pattern

/-! ## Escapes -/

/-- The characters that get a backslash: those with a meaning of their own, in a class or where
white space is skipped too. -/
def escaped : Text :=
  "()[]\x7b\x7d?*+-|^$\\.&~# \t\n\r\x0b\x0c"

/-- A character as it is written in a pattern. -/
def escapeChar (c : Char) : Text :=
  if c ∈ escaped then ['\\', c] else [c]

/-- A text as it is written in a pattern. -/
def escape (t : Text) : Text :=
  t.flatMap escapeChar

/-- The pattern for some words, in writing. -/
def writtenWords (words : List Text) : Text :=
  "(?<![\\w$])(?:".toList ++
    (Text.joinWith ['|'] ((longestFirst words).map escape) ++ ")(?![\\w$])".toList)

/-- A character is the one with its code. -/
lemma exprOfCode_toNat (c : Char) : exprOfCode c.toNat = .char c := by
  have hvalid : c.toNat.isValidChar := c.valid
  rw [exprOfCode, if_pos hvalid, Char.ofNat_toNat]

/-- A backslash takes the meaning from a character that is escaped. -/
lemma nextToken_backslash [CharacterNames] {c : Char} (hc : c ∈ escaped) (rest : Text) :
    nextToken false '\\' (c :: rest) = .ok (.item (.char c), rest) := by
  have hall : escaped.all (fun c => kindOf? c = none ∧ controlOf? c = none ∧
      c ∉ "AZbBNxuU0".toList ∧ c.isDigit = false ∧ c.isAlphanum = false) = true := by decide
  obtain ⟨hkind, hcontrol, hletter, hdigit, halphanum⟩ :=
    of_decide_eq_true (List.all_eq_true.mp hall c hc)
  have hcode : codeOfEscape c rest = .ok (c.toNat, rest) := by
    simp_all [codeOfEscape]
  show escapeToken (c :: rest) = _
  simp_all [escapeToken, Except.map, exprOfCode_toNat]

/-- A character that is not escaped stands for itself. -/
lemma nextToken_ordinary [CharacterNames] {c : Char} (hc : c ∉ escaped) (rest : Text) :
    nextToken false c rest = .ok (.item (.char c), rest) := by
  have hne : ∀ d ∈ escaped, c ≠ d := fun d hd => (ne_of_mem_of_not_mem hd hc).symm
  have hspecial : c ≠ '\\' ∧ c ≠ '[' ∧ c ≠ '(' ∧ c ≠ ')' ∧ c ≠ '|' ∧ c ≠ '.' ∧ c ≠ '^' ∧ c ≠ '$' ∧
      c ≠ '*' ∧ c ≠ '+' ∧ c ≠ '?' ∧ c ≠ '{' := by
    refine ⟨?_, ?_, ?_, ?_, ?_, ?_, ?_, ?_, ?_, ?_, ?_, ?_⟩ <;> exact hne _ (by decide)
  simp_all [nextToken]

/-- The state with the innermost group changed, but for what kind of group it is. -/
def Reading.inGroup (r : Reading) (complete items : List Expr) (latest : Latest) : Reading :=
  { r with frame := { r.frame with complete, items, latest } }

/-- Characters become items of the alternative that is being read. -/
lemma foldl_add (t : Text) (r : Reading) :
    ∃ latest, t.foldl (fun r c => r.add (.char c)) r =
      r.inGroup r.frame.complete ((t.map Expr.char).reverse ++ r.frame.items) latest := by
  induction t generalizing r with
  | nil => exact ⟨r.frame.latest, rfl⟩
  | cons c t ih =>
    obtain ⟨latest, hlatest⟩ := ih (r.add (.char c))
    refine ⟨latest, hlatest.trans ?_⟩
    rw [List.map_cons, List.reverse_cons, List.append_assoc]
    rfl

section

variable [CharacterNames] {r u : Reading} {rest : Text}

/-- An escaped character is read as the character. -/
lemma reads_escapeChar (c : Char) (h : Reads (r.add (.char c)) rest u) :
    Reads r (escapeChar c ++ rest) u := by
  unfold escapeChar
  split
  · rename_i hc
    exact .step (nextToken_backslash hc rest) rfl rfl h
  · rename_i hc
    exact .step (nextToken_ordinary hc rest) rfl rfl h

/-- **An escaped text is read as its characters**, one after the other. -/
lemma reads_escape (t : Text) (h : Reads (t.foldl (fun r c => r.add (.char c)) r) rest u) :
    Reads r (escape t ++ rest) u := by
  induction t generalizing r with
  | nil => exact h
  | cons c t ih =>
    rw [escape, List.flatMap_cons, List.append_assoc]
    exact reads_escapeChar c (ih h)

/-! ## Alternatives -/

/-- **Escaped texts between bars are read as alternatives.**

**Proof sketch.** Induction on the texts after the first. A bar completes the alternative that was
read, and the next text begins a new one. -/
lemma reads_alternatives (t : Text) (ts : List Text) (hitems : r.frame.items = [])
    (h : ∀ complete items latest,
      (r.inGroup complete items latest).frame.alternatives =
        r.frame.complete.reverse ++ (t :: ts).map Expr.word →
      Reads (r.inGroup complete items latest) rest u) :
    Reads r (Text.joinWith ['|'] ((t :: ts).map escape) ++ rest) u := by
  induction ts generalizing r t with
  | nil =>
    rw [List.map_cons, List.map_nil, Text.joinWith_singleton]
    obtain ⟨latest, hlatest⟩ := foldl_add t r
    refine reads_escape t (hlatest ▸ h _ _ latest ?_)
    simp [Frame.alternatives, Reading.inGroup, hitems, Expr.word]
  | cons next ts ih =>
    rw [List.map_cons, Text.joinWith_cons _ _ (by simp), List.append_assoc, List.append_assoc]
    obtain ⟨latest, hlatest⟩ := foldl_add t r
    refine reads_escape t (hlatest ▸ .step (k := .bar) rfl rfl rfl ?_)
    refine ih next rfl fun complete items latest halternatives => h complete items latest ?_
    refine halternatives.trans ?_
    simp [Reading.inGroup, hitems, Expr.word]

end

/-! ## The pattern for words -/

/-- The state in which the words are read: the condition before them has been read, and the group
around them is open. -/
def Reading.inWords (fold : Bool) : Reading :=
  ((initial fold).add (.notBehind 1 wordNeighbour)).enter .plain (initial fold).frame.flags

/-- The condition before the words and the opening of their group. -/
lemma reads_before [CharacterNames] {fold : Bool} {rest : Text} {u : Reading}
    (h : Reads (.inWords fold) rest u) :
    Reads (.initial fold) ("(?<![\\w$])(?:".toList ++ rest) u := by
  have hbehind : nextToken false '(' ("?<![\\w$])(?:".toList ++ rest) =
      .ok (.opening .notBehind, "[\\w$])(?:".toList ++ rest) := rfl
  have hclass : nextToken false '[' ("\\w$])(?:".toList ++ rest) =
      .ok (.item wordNeighbour, ")(?:".toList ++ rest) := rfl
  have hclosing : nextToken false ')' ("(?:".toList ++ rest) =
      .ok (.closing, "(?:".toList ++ rest) := rfl
  have hgroup : nextToken false '(' ("?:".toList ++ rest) = .ok (.opening .plain, rest) := rfl
  exact .step hbehind rfl rfl (.step hclass rfl rfl (.step hclosing rfl rfl
    (.step hgroup rfl rfl h)))

/-- The state after the condition that follows the words. -/
def Reading.afterWords (fold : Bool) (alternatives : List Expr) : Reading :=
  (((initial fold).add (.notBehind 1 wordNeighbour)).add (.oneOf alternatives)).add
    (.notAhead wordNeighbour)

/-- The end of the group around the words, which becomes an item with its alternatives, and the
condition after it. -/
lemma reads_after [CharacterNames] (fold : Bool) (complete items : List Expr) (latest : Latest) :
    Reads ((Reading.inWords fold).inGroup complete items latest) ")(?![\\w$])".toList
      (.afterWords fold
        ((Reading.inWords fold).inGroup complete items latest).frame.alternatives) := by
  have hgroup : nextToken false ')' "(?![\\w$])".toList = .ok (.closing, "(?![\\w$])".toList) := rfl
  have hahead : nextToken false '(' "?![\\w$])".toList =
      .ok (.opening .notAhead, "[\\w$])".toList) := rfl
  have hclass : nextToken false '[' "\\w$])".toList = .ok (.item wordNeighbour, [')']) := rfl
  have hclosing : nextToken false ')' [] = .ok (.closing, []) := rfl
  exact .step hgroup rfl rfl (.step hahead rfl rfl (.step hclass rfl rfl
    (.step hclosing rfl rfl (.done _))))

/-- **What is written for some words is the pattern for them.**

**Proof sketch.** The conditions before and after the group are read token by token. The group holds
the escaped words as its alternatives (`reads_alternatives`). -/
theorem read_writtenWords [CharacterNames] (fold : Bool) {words : List Text} (hwords : words ≠ []) :
    ∃ p, ofWords fold words = some p ∧ read fold (writtenWords words) = .ok p := by
  have hne : longestFirst words ≠ [] := fun hnil =>
    hwords (List.nil_perm.mp (hnil ▸ sortBy_perm _ words))
  obtain ⟨t, ts, hcons⟩ := List.exists_cons_of_ne_nil hne
  refine ⟨_, if_neg (by simpa using hwords), Reads.read (u := .afterWords fold
    ((longestFirst words).map .word)) ?_ rfl⟩
  unfold writtenWords
  rw [hcons]
  refine reads_before (reads_alternatives t ts rfl fun complete items latest halternatives => ?_)
  have halternatives : _ = (t :: ts).map Expr.word := halternatives
  rw [← halternatives]
  exact reads_after fold complete items latest

end DeclIndex.Pattern
