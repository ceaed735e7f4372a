import DeclIndex.Pattern.NameGroup
import DeclIndex.Proofs.Fallible
import Mathlib.Data.List.TakeWhile
import Mathlib.Tactic.Common

/-!
# Pieces of a written pattern

The group of the name is found by a scan that knows four characters only, while patterns are read
token by token. To compare the two, this module says what it means that the scan passes over a piece
of text, and that a token is local: what a token is may depend on text beyond it (a brace opens
bounds only if they are complete), but never on what follows an opening parenthesis beyond it. Both
are then shown of escapes.

## Main definitions

* `Pattern.Passes` — the scan passes over a piece of text.
* `Pattern.SameUpTo` — two texts agree up to a character that both have.
* `Pattern.CutsOff` — a piece is taken off the start of a text, and locally so.

## Main results

* `Pattern.exists_piece_of_escapeToken` — what belongs to an escape, which is local.
-/

namespace DeclIndex.Pattern

/-! ## The scan -/

/-- The scan passes over a piece of text, whatever follows: it starts within a class or not, as `a`
says, and comes out as `b` says. -/
def Passes (a : Bool) (piece : Text) (b : Bool) : Prop :=
  ∀ t, nameFirstGroup? a (piece ++ t) = (nameFirstGroup? b t).map (piece ++ ·)

/-- A character without meaning for the scan. -/
def isOrdinary (inClass : Bool) (c : Char) : Bool :=
  c != '\\' && (if inClass then c != ']' else c != '[' && c != '(')

/-- A bracket opens a class, which begins with a member. -/
lemma nameFirstGroup?_class {c : Char} (hcaret : c ≠ '^') (hc : c ≠ ']') (t : Text) :
    nameFirstGroup? false ('[' :: c :: t) = (nameFirstGroup? true (c :: t)).map ('[' :: ·) := by
  simp [nameFirstGroup?, hcaret, hc]

/-- A caret after the bracket inverts the class, which begins with a member. -/
lemma nameFirstGroup?_inverted {c : Char} (hc : c ≠ ']') (t : Text) :
    nameFirstGroup? false ('[' :: '^' :: c :: t) =
      (nameFirstGroup? true (c :: t)).map ("[^".toList ++ ·) := by
  simp [nameFirstGroup?, hc]

namespace Passes

variable {a b d : Bool} {s t : Text} {c : Char}

/-- There is nothing to do for no text. -/
lemma nil (a : Bool) : Passes a [] a := by
  intro t
  cases h : nameFirstGroup? a t with
  | none => rw [List.nil_append, h]; rfl
  | some u => rw [List.nil_append, h]; rfl

/-- Two pieces may be passed one after the other. -/
lemma append (hs : Passes a s b) (ht : Passes b t d) : Passes a (s ++ t) d := by
  intro u
  rw [List.append_assoc, hs, ht, Option.map_map]
  congr 1
  funext v
  exact (List.append_assoc s t v).symm

/-- A character without meaning is passed. -/
lemma singleton (h : isOrdinary a c) : Passes a [c] a := by
  intro t
  cases a with
  | true =>
    have hc : c ≠ '\\' ∧ c ≠ ']' := by simpa [isOrdinary] using h
    simp [nameFirstGroup?, hc.1, hc.2]
  | false =>
    have hc : c ≠ '\\' ∧ c ≠ '[' ∧ c ≠ '(' := by simpa [isOrdinary] using h
    simp [nameFirstGroup?, hc.1, hc.2.1, hc.2.2]

/-- One character after the other. -/
lemma cons (h : isOrdinary a c) (ht : Passes a t b) : Passes a (c :: t) b :=
  (singleton h).append ht

/-- Text without meaning is passed. -/
lemma of_forall (h : ∀ c ∈ t, isOrdinary a c) : Passes a t a := by
  induction t with
  | nil => exact nil a
  | cons c t ih =>
    exact cons (h c List.mem_cons_self) (ih fun d hd => h d (List.mem_cons_of_mem c hd))

/-- A backslash is passed together with the character after it. -/
lemma escape (a : Bool) (c : Char) : Passes a ['\\', c] a := by
  intro t
  cases a <;> rfl

/-- A closing bracket ends a class. -/
lemma bracket : Passes true [']'] false := by
  intro t
  rfl

/-- A class is passed from its opening bracket on. -/
lemma openMember (h : Passes true (c :: t) b) (hcaret : c ≠ '^') (hc : c ≠ ']') :
    Passes false ('[' :: c :: t) b := by
  intro u
  show nameFirstGroup? false ('[' :: c :: (t ++ u)) = _
  rw [nameFirstGroup?_class hcaret hc, ← List.cons_append, h u, Option.map_map]
  rfl

/-- A closing bracket just after the opening one is a member. -/
lemma openBracket (h : Passes true t b) : Passes false ('[' :: ']' :: t) b := by
  intro u
  show (nameFirstGroup? true (t ++ u)).map _ = _
  rw [h u, Option.map_map]
  rfl

/-- An inverted class is passed from its opening bracket on. -/
lemma openInvertedMember (h : Passes true (c :: t) b) (hc : c ≠ ']') :
    Passes false ('[' :: '^' :: c :: t) b := by
  intro u
  show nameFirstGroup? false ('[' :: '^' :: c :: (t ++ u)) = _
  rw [nameFirstGroup?_inverted hc, ← List.cons_append, h u, Option.map_map]
  rfl

/-- A closing bracket just after the caret is a member. -/
lemma openInvertedBracket (h : Passes true t b) : Passes false ('[' :: '^' :: ']' :: t) b := by
  intro u
  show (nameFirstGroup? true (t ++ u)).map _ = _
  rw [h u, Option.map_map]
  rfl

/-- A parenthesis before a question mark opens no group that could be named. -/
lemma extension : Passes false ['(', '?'] false := by
  intro t
  rfl

end Passes

/-- A character that passes a test which the four characters fail has no meaning for the scan. -/
lemma isOrdinary_of_test {p : Char → Bool} (hp : ['\\', '[', ']', '('].any p = false)
    {c : Char} (hc : p c) (a : Bool) : isOrdinary a c := by
  have hne : ∀ d ∈ ['\\', '[', ']', '('], c ≠ d := by
    rintro d hd rfl
    exact List.any_eq_false.mp hp c hd hc
  simp only [List.mem_cons, List.not_mem_nil, or_false, forall_eq_or_imp, forall_eq] at hne
  cases a <;> simp [isOrdinary, hne]

/-- An octal digit has no meaning for the scan. -/
lemma isOrdinary_of_isOctal {c : Char} (hc : isOctal c) (a : Bool) : isOrdinary a c :=
  isOrdinary_of_test (by decide) hc a

/-- A decimal digit has no meaning for the scan. -/
lemma isOrdinary_of_isDigit {c : Char} (hc : c.isDigit) (a : Bool) : isOrdinary a c :=
  isOrdinary_of_test (by decide) hc a

/-- A letter that is a flag has no meaning for the scan. -/
lemma isOrdinary_of_isFlag {c : Char} (hc : isFlag c) (a : Bool) : isOrdinary a c :=
  isOrdinary_of_test (by decide) hc a

/-- The characters of an identifier have no meaning for the scan. -/
lemma isOrdinary_of_isIdentifier {name : Text} (h : Text.isIdentifier name) {c : Char}
    (hc : c ∈ name) (a : Bool) : isOrdinary a c := by
  cases name with
  | nil => exact absurd hc List.not_mem_nil
  | cons d rest =>
    have h : Text.opensIdentifier d ∧ ∀ e ∈ rest, Text.continuesIdentifier e := by
      simpa [Text.isIdentifier] using h
    rcases List.mem_cons.mp hc with rfl | hc
    · exact isOrdinary_of_test (by decide) h.1 a
    · exact isOrdinary_of_test (by decide) (h.2 c hc) a

/-- A character that stands in no identifier. -/
lemma not_mem_of_isIdentifier {name : Text} {d : Char} (h : Text.isIdentifier name)
    (hopens : Text.opensIdentifier d = false) (hcontinues : Text.continuesIdentifier d = false) :
    d ∉ name := by
  intro hmem
  cases name with
  | nil => exact absurd hmem List.not_mem_nil
  | cons c rest =>
    have h : Text.opensIdentifier c ∧ ∀ e ∈ rest, Text.continuesIdentifier e := by
      simpa [Text.isIdentifier] using h
    rcases List.mem_cons.mp hmem with rfl | hmem
    · exact absurd (hopens.symm.trans h.1) Bool.false_ne_true
    · exact absurd (hcontinues.symm.trans (h.2 d hmem)) Bool.false_ne_true

/-! ## What follows a token -/

/-- Two texts agree up to a given character, which both have. -/
inductive SameUpTo (stop : Char) : Text → Text → Prop
  | here (s t : Text) : SameUpTo stop (stop :: s) (stop :: t)
  | cons (c : Char) {s t : Text} (h : SameUpTo stop s t) : SameUpTo stop (c :: s) (c :: t)

namespace SameUpTo

variable {stop : Char} {s t : Text} {p : Char → Bool}

/-- The same text may be put before both. -/
lemma append_left (x : Text) (h : SameUpTo stop s t) : SameUpTo stop (x ++ s) (x ++ t) := by
  induction x with
  | nil => exact h
  | cons c x ih => exact .cons c ih

/-- It does not matter which of the two comes first. -/
lemma symm (h : SameUpTo stop s t) : SameUpTo stop t s := by
  induction h with
  | here s t => exact .here t s
  | cons c _ ih => exact .cons c ih

/-- Such texts begin with the same character. -/
lemma exists_cons {c : Char} (h : SameUpTo stop (c :: s) t) : ∃ t', t = c :: t' := by
  cases h with
  | here s t => exact ⟨t, rfl⟩
  | cons c h => exact ⟨_, rfl⟩

/-- What follows such a character agrees just as far, if it is not the last that agrees. -/
lemma of_cons {c d : Char} (hc : c ≠ stop) (h : SameUpTo stop (c :: s) (d :: t)) :
    SameUpTo stop s t := by
  cases h with
  | here s t => exact absurd rfl hc
  | cons c h => exact h

/-- Characters other than the last that agrees are the same at the start of both. -/
lemma takeWhile_eq (hp : p stop = false) (h : SameUpTo stop s t) :
    s.takeWhile p = t.takeWhile p := by
  induction h with
  | here s t => rw [List.takeWhile_cons, List.takeWhile_cons, hp]; rfl
  | cons c h ih => rw [List.takeWhile_cons, List.takeWhile_cons, ih]

/-- What follows them agrees just as far. -/
lemma dropWhile (hp : p stop = false) (h : SameUpTo stop s t) :
    SameUpTo stop (s.dropWhile p) (t.dropWhile p) := by
  induction h with
  | here s t =>
    rw [List.dropWhile_cons, List.dropWhile_cons, hp]
    exact .here s t
  | cons c h ih =>
    rw [List.dropWhile_cons, List.dropWhile_cons]
    cases p c with
    | true => exact ih
    | false => exact .cons c h

/-- At most so many characters other than the last that agrees are the same at the start of both. -/
lemma takeWhile_take_eq (hp : p stop = false) (h : SameUpTo stop s t) (n : Nat) :
    (s.take n).takeWhile p = (t.take n).takeWhile p := by
  induction h generalizing n with
  | here s t =>
    cases n with
    | zero => rfl
    | succ n =>
      rw [List.take_succ_cons, List.take_succ_cons, List.takeWhile_cons, List.takeWhile_cons, hp]
      rfl
  | cons c h ih =>
    cases n with
    | zero => rfl
    | succ n =>
      rw [List.take_succ_cons, List.take_succ_cons, List.takeWhile_cons, List.takeWhile_cons, ih]

end SameUpTo

/-- A piece of text is what `f` takes off at the start of `t`, to give `x`. It takes off the same
piece when what follows is changed beyond an opening parenthesis. -/
structure CutsOff {α : Type} (f : Text → Except Fault (α × Text)) (t : Text) (x : α)
    (piece rest : Text) : Prop where
  split : t = piece ++ rest
  again : ∀ s, SameUpTo '(' rest s → f (piece ++ s) = .ok (x, s)

/-! ## Escapes -/

/-- A character that writes a hexadecimal digit has no meaning for the scan. -/
lemma isOrdinary_of_hexValue? {c : Char} (hc : (Text.hexValue? c).isSome) (a : Bool) :
    isOrdinary a c :=
  isOrdinary_of_test (p := fun c => (Text.hexValue? c).isSome) (by decide) hc a

/-- Hexadecimal digits are read whatever follows them. -/
lemma exists_piece_of_hexCode? {count n : Nat} {t rest : Text}
    (h : hexCode? count t = some (n, rest)) :
    ∃ piece, (∀ c ∈ piece, ∀ a, isOrdinary a c) ∧ t = piece ++ rest ∧
      ∀ s, hexCode? count (piece ++ s) = some (n, s) := by
  rw [hexCode?] at h
  split at h
  · rename_i hlen
    obtain ⟨rfl, rfl⟩ := Prod.mk.injEq .. ▸ Option.some.inj h
    have hle := List.length_filterMap_le Text.hexValue? (t.take count)
    have htake : (t.take count).length = count :=
      Nat.le_antisymm (List.length_take_le count t) (Nat.le_trans (Nat.le_of_eq hlen.symm) hle)
    have hdigits : ∀ c ∈ t.take count, (Text.hexValue? c).isSome := by
      intro c hc
      by_contra hnone
      have hlt := List.length_filterMap_lt_length_iff_exists.mpr
        ⟨c, hc, Option.not_isSome_iff_eq_none.mp hnone⟩
      omega
    refine ⟨t.take count, fun c hc => isOrdinary_of_hexValue? (hdigits c hc),
      (List.take_append_drop count t).symm, fun s => ?_⟩
    have hs : (t.take count ++ s).take count = t.take count := List.take_left' htake
    rw [hexCode?, hs, if_pos hlen, List.drop_left' htake]
  · cases h

/-- The text up to a character is found whatever follows that character. -/
lemma untilChar?_eq_some {stop : Char} {t name rest : Text}
    (h : untilChar? stop t = some (name, rest)) :
    t = name ++ stop :: rest ∧ ∀ s, untilChar? stop (name ++ stop :: s) = some (name, s) := by
  induction t generalizing name with
  | nil => cases h
  | cons c t ih =>
    rw [untilChar?] at h
    split_ifs at h with hc
    · cases h
      exact ⟨by rw [hc]; rfl, fun s => by rw [List.nil_append, untilChar?, if_pos rfl]⟩
    · obtain ⟨⟨before, after⟩, hfound, heq⟩ := Option.map_eq_some_iff.mp h
      cases heq
      obtain ⟨ht, hs⟩ := ih hfound
      refine ⟨by rw [ht]; rfl, fun s => ?_⟩
      rw [List.cons_append, untilChar?, if_neg hc, hs s]
      rfl

/-- What the name of a character is made of has no meaning for the scan. -/
lemma isOrdinary_of_isNameChar {c : Char} (hc : isNameChar c) (a : Bool) : isOrdinary a c :=
  isOrdinary_of_test (by decide) hc a

/-- Octal digits, of which there may be at most so many, are read alike before texts that agree up
to a character that is none. -/
lemma takeWhile_isOctal_take (stop : Char) (hstop : isOctal stop = false) {count : Nat}
    {t digits : Text} (hdigits : (t.take count).takeWhile isOctal = digits) :
    (∀ c ∈ digits, ∀ a, isOrdinary a c) ∧ t = digits ++ t.drop digits.length ∧
      ∀ s, SameUpTo stop (t.drop digits.length) s →
        ((digits ++ s).take count).takeWhile isOctal = digits := by
  have hprefix : digits <+: t :=
    (hdigits ▸ List.takeWhile_prefix isOctal).trans (List.take_prefix count t)
  have hsplit : t = digits ++ t.drop digits.length := (List.prefix_iff_eq_append.mp hprefix).symm
  refine ⟨fun c hc => isOrdinary_of_isOctal ?_, hsplit, fun s hs => ?_⟩
  · rw [← hdigits] at hc
    exact List.mem_takeWhile_imp hc
  · have hsame := (hs.append_left digits).takeWhile_take_eq hstop count
    rw [← hsplit, hdigits] at hsame
    exact hsame.symm

section

variable [CharacterNames]

/-- The name of a character in braces is read whatever follows it. -/
lemma exists_piece_of_namedCode {t rest : Text} {n : Nat} (h : namedCode t = .ok (n, rest)) :
    ∃ piece, (∀ d ∈ piece, ∀ a, isOrdinary a d) ∧ t = piece ++ rest ∧
      ∀ s, namedCode (piece ++ s) = .ok (n, s) := by
  unfold namedCode at h
  split at h
  · split at h
    · rename_i d name _ hname
      split at h
      · rename_i c hc
        cases h
        obtain ⟨rfl, hs⟩ := untilChar?_eq_some hname
        have hplain : ∀ e ∈ d :: name ++ ['}'], ∀ a, isOrdinary a e :=
          List.forall_mem_append.mpr
            ⟨fun e he => isOrdinary_of_isNameChar (CharacterNames.plain hc e he),
              by simp [isOrdinary]⟩
        refine ⟨'{' :: (d :: name ++ ['}']),
          List.forall_mem_cons.mpr ⟨by simp [isOrdinary], hplain⟩, by simp, fun s => ?_⟩
        have hagain := hs s
        simp only [List.cons_append, List.append_assoc, List.nil_append] at hagain ⊢
        simp only [namedCode, hagain, hc]
      · cases h
    · cases h
  · cases h

/-- An escape by number or by name, or one that stands for itself, is read whatever follows it. -/
lemma exists_piece_of_codeOfEscape {c : Char} {t rest : Text} {n : Nat}
    (h : codeOfEscape c t = .ok (n, rest)) :
    ∃ piece, (∀ d ∈ piece, ∀ a, isOrdinary a d) ∧ t = piece ++ rest ∧
      ∀ s, codeOfEscape c (piece ++ s) = .ok (n, s) := by
  have hnil : ∀ d ∈ ([] : Text), ∀ a, isOrdinary a d := by simp
  rw [codeOfEscape] at h
  split at h
  · rename_i d hd
    obtain ⟨rfl, rfl⟩ := Prod.mk.injEq .. ▸ Except.ok.inj h
    exact ⟨[], hnil, rfl, fun s => by simp [codeOfEscape, hd]⟩
  · rename_i hd
    have hhex : ∀ count,
        (hexCode? count t).elim (.error .badEscape) .ok = (.ok (n, rest) : Except Fault _) →
          hexCode? count t = some (n, rest) := by
      intro count hcount
      cases hcode : hexCode? count t with
      | none => rw [hcode] at hcount; cases hcount
      | some code => rw [hcode] at hcount; cases hcount; rfl
    split_ifs at h with hN hx hu hU hc
    · obtain ⟨piece, hpiece, ht, hs⟩ := exists_piece_of_namedCode h
      exact ⟨piece, hpiece, ht, fun s => by rw [codeOfEscape, hd]; simp [hN, hs s]⟩
    · obtain ⟨piece, hpiece, ht, hs⟩ := exists_piece_of_hexCode? (hhex 2 h)
      exact ⟨piece, hpiece, ht, fun s => by rw [codeOfEscape, hd]; simp [hx, hs s]⟩
    · obtain ⟨piece, hpiece, ht, hs⟩ := exists_piece_of_hexCode? (hhex 4 h)
      exact ⟨piece, hpiece, ht, fun s => by rw [codeOfEscape, hd]; simp [hu, hs s]⟩
    · cases hcode : hexCode? 8 t with
      | none => rw [hcode] at h; cases h
      | some code =>
        rw [hcode] at h
        simp only at h
        split_ifs at h with hn
        cases h
        obtain ⟨piece, hpiece, ht, hs⟩ := exists_piece_of_hexCode? hcode
        exact ⟨piece, hpiece, ht, fun s => by rw [codeOfEscape, hd]; simp [hU, hs s, hn]⟩
    · cases h
      exact ⟨[], hnil, rfl, fun s => by rw [codeOfEscape, hd]; simp [hN, hx, hu, hU, hc]⟩

/-- A digit after a backslash has no other meaning. -/
lemma escapeToken_of_isDigit {c : Char} (hc : c.isDigit) (h0 : c ≠ '0') (t : Text) :
    escapeToken (c :: t) =
      match t with
      | [] => .ok (.reference (c.toNat - 48), [])
      | [d] =>
        if d.isDigit then .ok (.reference (Text.readNat 10 [c.toNat - 48, d.toNat - 48]), [])
        else .ok (.reference (c.toNat - 48), [d])
      | d :: e :: rest =>
        if !d.isDigit then .ok (.reference (c.toNat - 48), d :: e :: rest)
        else if isOctal c && isOctal d && isOctal e then
          if octalCode [c, d, e] ≤ 0o377 then .ok (.item (exprOfCode (octalCode [c, d, e])), rest)
          else .error .badEscape
        else .ok (.reference (Text.readNat 10 [c.toNat - 48, d.toNat - 48]), e :: rest) := by
  have hne : ∀ d ∈ "dDsSwWAZbB".toList, c ≠ d := by
    rintro d hd rfl
    have hnone : "dDsSwWAZbB".toList.any Char.isDigit = false := by decide
    exact List.any_eq_false.mp hnone c hd hc
  have hkind : kindOf? c = none := by
    unfold kindOf?
    split <;> simp_all
  have hA := hne 'A' (by decide)
  have hZ := hne 'Z' (by decide)
  have hb := hne 'b' (by decide)
  have hB := hne 'B' (by decide)
  unfold escapeToken
  dsimp only
  rw [hkind]
  simp only [hA, hZ, hb, hB, h0, hc, if_true, if_false]
  rcases t with _ | ⟨d, _ | ⟨e, rest⟩⟩
  · rfl
  · rfl
  · by_cases hd : d.isDigit <;> simp [hd]

/-- An escape by decimal digits is local. -/
lemma exists_piece_of_isDigit {c : Char} {t rest : Text} {k : Token} (hc : c.isDigit)
    (h0 : c ≠ '0') (h : escapeToken (c :: t) = .ok (k, rest)) :
    ∃ piece, (∀ d ∈ piece, ∀ a, isOrdinary a d) ∧
      CutsOff escapeToken (c :: t) k (c :: piece) rest := by
  have hnil : ∀ d ∈ ([] : Text), ∀ a, isOrdinary a d := by simp
  rw [escapeToken_of_isDigit hc h0] at h
  rcases t with _ | ⟨d, _ | ⟨e, t⟩⟩
  · cases h
    exact ⟨[], hnil, rfl, fun s hs => by cases hs⟩
  · dsimp only at h
    split_ifs at h with hd
    · cases h
      refine ⟨[d], ?_, rfl, fun s hs => by cases hs⟩
      simpa using isOrdinary_of_isDigit hd
    · cases h
      refine ⟨[], hnil, rfl, fun s hs => ?_⟩
      obtain ⟨s, rfl⟩ := hs.exists_cons
      rw [List.singleton_append, escapeToken_of_isDigit hc h0]
      cases s with
      | nil => simp [hd]
      | cons e s => simp [hd]
  · dsimp only at h
    split_ifs at h with hd hoctal hcode
    · cases h
      refine ⟨[], hnil, rfl, fun s hs => ?_⟩
      obtain ⟨s, rfl⟩ := hs.exists_cons
      rw [List.singleton_append, escapeToken_of_isDigit hc h0]
      cases s with
      | nil => simp_all
      | cons e s => simp [hd]
    · cases h
      have hdigits : ((isOctal c = true ∧ isOctal d = true) ∧ isOctal e = true) := by
        simpa using hoctal
      refine ⟨[d, e], ?_, rfl, fun s _ => ?_⟩
      · have he := List.forall_mem_cons.mpr ⟨isOrdinary_of_isOctal hdigits.2, hnil⟩
        exact List.forall_mem_cons.mpr ⟨isOrdinary_of_isOctal hdigits.1.2, he⟩
      · rw [List.cons_append, List.cons_append, List.cons_append, List.nil_append,
          escapeToken_of_isDigit hc h0]
        simp only [hd, hoctal, hcode, if_true]
        rfl
    · cases h
      refine ⟨[d], ?_, rfl, fun s hs => ?_⟩
      · simpa using isOrdinary_of_isDigit (by simpa using hd)
      · obtain ⟨s, rfl⟩ := hs.exists_cons
        rw [List.cons_append, List.singleton_append, escapeToken_of_isDigit hc h0]
        simp only [hd, hoctal]
        rfl

/-- An escape outside a class is one character, and perhaps more that have no meaning for the scan.
It is local. -/
lemma exists_piece_of_escapeToken {t rest : Text} {k : Token}
    (h : escapeToken t = .ok (k, rest)) :
    ∃ c piece, CutsOff escapeToken t k (c :: piece) rest ∧ ∀ d ∈ piece, ∀ a, isOrdinary a d := by
  have hnil : ∀ d ∈ ([] : Text), ∀ a, isOrdinary a d := by simp
  cases t with
  | nil => cases h
  | cons c t =>
    have hwhole := h
    unfold escapeToken at h
    dsimp only at h
    split at h
    · rename_i m hm
      cases h
      exact ⟨c, [], ⟨rfl, fun s _ => by unfold escapeToken; simp [hm]⟩, hnil⟩
    · rename_i hm
      split_ifs at h with hA hZ hb hB h0 hdigit
      · cases h
        exact ⟨c, [], ⟨rfl, fun s _ => by subst hA; rfl⟩, hnil⟩
      · cases h
        exact ⟨c, [], ⟨rfl, fun s _ => by subst hZ; rfl⟩, hnil⟩
      · cases h
        exact ⟨c, [], ⟨rfl, fun s _ => by subst hb; rfl⟩, hnil⟩
      · cases h
        exact ⟨c, [], ⟨rfl, fun s _ => by subst hB; rfl⟩, hnil⟩
      · cases h
        obtain ⟨hpiece, ht, hs⟩ := takeWhile_isOctal_take '(' (by decide) (t := t) rfl
        refine ⟨c, (t.take 2).takeWhile isOctal, ⟨congrArg (c :: ·) ht, fun s hrest => ?_⟩, hpiece⟩
        have hagain := hs s hrest
        subst h0
        rw [List.cons_append]
        unfold escapeToken
        dsimp only
        rw [hm]
        simp [hagain]
      · obtain ⟨piece, hpiece, hcut⟩ := exists_piece_of_isDigit hdigit h0 hwhole
        exact ⟨c, piece, hcut, hpiece⟩
      · obtain ⟨code, hcode, heq⟩ := map_eq_ok_iff.mp h
        cases heq
        obtain ⟨piece, hpiece, ht, hs⟩ := exists_piece_of_codeOfEscape hcode
        refine ⟨c, piece, ⟨congrArg (c :: ·) ht, fun s _ => ?_⟩, hpiece⟩
        rw [List.cons_append]
        unfold escapeToken
        dsimp only
        rw [hm]
        simp [hA, hZ, hb, hB, h0, hdigit, hs s, Except.map]

end

end DeclIndex.Pattern
