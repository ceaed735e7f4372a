import DeclIndex.Proofs.Pattern.ClassPiece

/-!
# Tokens as pieces of a written pattern

The scan for the group of the name passes over the piece of text that a token takes without stopping
inside it, and comes out of it outside every class. The only token at which it stops is the
parenthesis that opens a group without a name. This holds where white space is read as it stands,
and for tokens that are no comment and no condition on a group.

## Main definitions

* `Pattern.Token.isPlain` — tokens that are no comment, no condition and no flag that skips white
  space.
* `Pattern.IsPiece` — what a plain token takes of a written pattern.

## Main results

* `Pattern.nextToken_eq_capture` — where a group without a name opens.
* `Pattern.exists_piece_of_nextToken` — all other plain tokens are passed, and they are local.
* `Pattern.IsPiece.cut` — where a parenthesis stands that does not begin a token.
-/

namespace DeclIndex.Pattern

/-! ## Groups -/

/-- Tokens that are no comment, no condition on a group and no flag that skips white space. -/
def Token.isPlain : Token → Bool
  | .nothing | .opening (.ifNumber _) | .opening (.ifName _) => false
  | .setFlags on | .opening (.flags on _) => !on.contains 'x'
  | _ => true

/-- A text is found up to a character that it does not have. -/
lemma untilChar?_append {stop : Char} {name : Text} (h : stop ∉ name) (t : Text) :
    untilChar? stop (name ++ stop :: t) = some (name, t) := by
  induction name with
  | nil => exact if_pos rfl
  | cons c name ih =>
    have hne : c ≠ stop := fun hc => h (hc ▸ List.mem_cons_self)
    rw [List.cons_append, untilChar?, if_neg hne, ih fun hmem => h (List.mem_cons_of_mem c hmem)]
    rfl

/-- A name is read whatever follows the character after it. -/
lemma nameUntil_eq_ok {stop : Char} {t name rest : Text}
    (h : nameUntil stop t = .ok (name, rest)) :
    t = name ++ stop :: rest ∧ Text.isIdentifier name ∧
      ∀ s, nameUntil stop (name ++ stop :: s) = .ok (name, s) := by
  rw [nameUntil] at h
  split at h
  · cases h
  · rename_i found after hfound
    split_ifs at h with hname
    cases h
    obtain ⟨ht, hs⟩ := untilChar?_eq_some hfound
    refine ⟨ht, hname, fun s => ?_⟩
    rw [nameUntil, hs s]
    simp [hname]

/-- Characters that pass a test end before the first one that does not, whatever follows it. -/
lemma span_of_dropWhile {p : Char → Bool} {t after : Text} {c : Char}
    (h : t.dropWhile p = c :: after) :
    t = t.takeWhile p ++ c :: after ∧ ∀ s, (t.takeWhile p ++ c :: s).takeWhile p = t.takeWhile p ∧
      (t.takeWhile p ++ c :: s).dropWhile p = c :: s := by
  have hrun : ∀ d ∈ t.takeWhile p, p d := fun d hd => List.mem_takeWhile_imp hd
  have hc : ¬p c := by
    have hne : t.dropWhile p ≠ [] := by simp [h]
    have hhead := List.head_dropWhile_not p hne
    simpa [h] using hhead
  refine ⟨?_, fun s => ⟨?_, ?_⟩⟩
  · rw [← h, List.takeWhile_append_dropWhile]
  · rw [List.takeWhile_append_of_pos hrun, List.takeWhile_cons_of_neg hc, List.append_nil]
  · rw [List.dropWhile_append_of_pos hrun, List.dropWhile_cons_of_neg hc]

/-- Characters that pass a test have no meaning for the scan if no character that passes it has. -/
lemma isOrdinary_of_mem_run {p : Char → Bool} (hp : ∀ {c}, p c → ∀ a, isOrdinary a c)
    {t piece : Text} (hpiece : ∀ c ∈ piece, isOrdinary false c) :
    ∀ c ∈ t.takeWhile p ++ piece, isOrdinary false c :=
  List.forall_mem_append.mpr ⟨fun _ hc => hp (List.mem_takeWhile_imp hc) false, hpiece⟩

/-- Flags are passed, and they are read alike whatever follows them. -/
lemma exists_piece_of_flagsToken {t rest : Text} {k : Token} (h : flagsToken t = .ok (k, rest)) :
    ∃ piece, (∀ c ∈ piece, isOrdinary false c) ∧ t = piece ++ rest ∧
      ∀ s, flagsToken (piece ++ s) = .ok (k, s) := by
  unfold flagsToken at h
  dsimp only at h
  split at h
  · cases h
  rename_i hagree
  split at h
  · rename_i after hafter
    split_ifs at h with hempty
    cases h
    obtain ⟨ht, hspan⟩ := span_of_dropWhile hafter
    refine ⟨t.takeWhile isFlag ++ [')'], ?_, by simpa using ht, fun s => ?_⟩
    · exact isOrdinary_of_mem_run isOrdinary_of_isFlag (by simp [isOrdinary])
    · rw [List.append_assoc, List.singleton_append, flagsToken, (hspan s).1, (hspan s).2]
      rw [if_neg hagree]
      exact if_neg hempty
  · rename_i after hafter
    split_ifs at h with htext
    cases h
    obtain ⟨ht, hspan⟩ := span_of_dropWhile hafter
    refine ⟨t.takeWhile isFlag ++ [':'], ?_, by simpa using ht, fun s => ?_⟩
    · exact isOrdinary_of_mem_run isOrdinary_of_isFlag (by simp [isOrdinary])
    · rw [List.append_assoc, List.singleton_append, flagsToken, (hspan s).1, (hspan s).2]
      rw [if_neg hagree]
      exact if_neg htext
  · rename_i after hafter
    split at h
    · rename_i last hlast
      split_ifs at h with hwrong
      cases h
      obtain ⟨ht, hspan⟩ := span_of_dropWhile hafter
      obtain ⟨hoff, hspanOff⟩ := span_of_dropWhile hlast
      refine ⟨t.takeWhile isFlag ++ '-' :: (after.takeWhile isFlag ++ [':']), ?_, ?_, fun s => ?_⟩
      · have hcolon : ∀ c ∈ after.takeWhile isFlag ++ [':'], isOrdinary false c :=
          isOrdinary_of_mem_run isOrdinary_of_isFlag (by simp [isOrdinary])
        exact isOrdinary_of_mem_run isOrdinary_of_isFlag
          (List.forall_mem_cons.mpr ⟨by decide, hcolon⟩)
      · rw [List.append_assoc, List.cons_append, List.append_assoc, List.singleton_append, ← hoff]
        exact ht
      · rw [List.append_assoc, List.cons_append, List.append_assoc, List.singleton_append,
          flagsToken, (hspan _).1, (hspan _).2]
        simp only [(hspanOff s).1, (hspanOff s).2]
        rw [if_neg hagree, if_neg hwrong]
    · cases h
  · cases h

/-- A flag or a hyphen after the question mark begins flags. -/
lemma groupToken_flags {c : Char} (hc : isFlag c || c == '-') (t : Text) :
    groupToken ('?' :: c :: t) = flagsToken (c :: t) := by
  have hmem : c ∈ ['a', 'i', 'L', 'm', 's', 't', 'u', 'x', '-'] := by
    simpa [isFlag, or_assoc] using hc
  simp only [List.mem_cons, List.not_mem_nil, or_false] at hmem
  rcases hmem with rfl | rfl | rfl | rfl | rfl | rfl | rfl | rfl | rfl <;> rfl

/-- A condition on a group is not plain. -/
lemma isPlain_of_conditionToken {t rest : Text} {k : Token}
    (h : conditionToken t = .ok (k, rest)) : k.isPlain = false := by
  rw [conditionToken] at h
  split at h
  · cases h
  · split_ifs at h with hname
    · cases h
      rfl
    · split at h
      · cases h
        rfl
      · cases h

/-- The opening of a group with a name has no meaning for the scan after its question mark. -/
lemma isOrdinary_of_mem_named {a b stop : Char} {name : Text} (hname : Text.isIdentifier name)
    (hfixed : ∀ c ∈ [a, b, stop], isOrdinary false c) :
    ∀ c ∈ a :: b :: (name ++ [stop]), isOrdinary false c := by
  intro c hc
  have hc : c ∈ [a, b, stop] ∨ c ∈ name := by
    simp only [List.mem_cons, List.mem_append, List.not_mem_nil, or_false] at hc ⊢
    tauto
  rcases hc with hc | hc
  · exact hfixed c hc
  · exact isOrdinary_of_isIdentifier hname hc false

/-- A group that begins with a question mark is passed up to its contents, and its opening is read
alike whatever they are. Comments and conditions are left out. -/
lemma exists_piece_of_groupToken {t rest : Text} {k : Token}
    (h : groupToken ('?' :: t) = .ok (k, rest)) (hk : k.isPlain) :
    ∃ piece, CutsOff groupToken ('?' :: t) k ('?' :: piece) rest ∧
      ∀ c ∈ piece, isOrdinary false c := by
  unfold groupToken at h
  split at h
  case h_1 u heq =>
    cases heq
    obtain ⟨found, hname, heq⟩ := map_eq_ok_iff.mp h
    cases heq
    obtain ⟨rfl, hident, hs⟩ := nameUntil_eq_ok hname
    refine ⟨'P' :: '<' :: (found.1 ++ ['>']), ⟨by simp, fun s _ => ?_⟩,
      isOrdinary_of_mem_named hident (by simp [isOrdinary])⟩
    show groupToken ('?' :: 'P' :: '<' :: (found.1 ++ ['>'] ++ s)) = _
    rw [List.append_assoc, List.singleton_append, groupToken, hs s]
    rfl
  case h_2 u heq =>
    cases heq
    obtain ⟨found, hname, heq⟩ := map_eq_ok_iff.mp h
    cases heq
    obtain ⟨rfl, hident, hs⟩ := nameUntil_eq_ok hname
    refine ⟨'P' :: '=' :: (found.1 ++ [')']), ⟨by simp, fun s _ => ?_⟩,
      isOrdinary_of_mem_named hident (by simp [isOrdinary])⟩
    show groupToken ('?' :: 'P' :: '=' :: (found.1 ++ [')'] ++ s)) = _
    rw [List.append_assoc, List.singleton_append, groupToken, hs s]
    rfl
  case h_3 u heq =>
    cases heq; cases h
    exact ⟨[':'], ⟨rfl, fun s _ => rfl⟩, by simp [isOrdinary]⟩
  case h_4 u heq =>
    cases heq; cases h
    exact ⟨['>'], ⟨rfl, fun s _ => rfl⟩, by simp [isOrdinary]⟩
  case h_5 u heq =>
    cases heq; cases h
    exact ⟨['='], ⟨rfl, fun s _ => rfl⟩, by simp [isOrdinary]⟩
  case h_6 u heq =>
    cases heq; cases h
    exact ⟨['!'], ⟨rfl, fun s _ => rfl⟩, by simp [isOrdinary]⟩
  case h_7 u heq =>
    cases heq; cases h
    exact ⟨['<', '='], ⟨rfl, fun s _ => rfl⟩, by simp [isOrdinary]⟩
  case h_8 u heq =>
    cases heq; cases h
    exact ⟨['<', '!'], ⟨rfl, fun s _ => rfl⟩, by simp [isOrdinary]⟩
  case h_9 u heq =>
    obtain ⟨after, hskip, heq⟩ := map_eq_ok_iff.mp h
    cases heq
    exact absurd hk (by decide)
  case h_10 u heq =>
    rw [isPlain_of_conditionToken h] at hk
    exact absurd hk Bool.false_ne_true
  case h_11 c u _ _ _ _ _ _ _ _ _ _ heq =>
    cases heq
    split_ifs at h with hc
    obtain ⟨piece, hpiece, hsplit, hs⟩ := exists_piece_of_flagsToken h
    obtain ⟨flags, rfl⟩ : ∃ flags, piece = c :: flags := by
      rcases piece with _ | ⟨d, flags⟩
      · cases hs []
      · exact ⟨flags, by rw [(List.cons.inj hsplit).1]⟩
    refine ⟨c :: flags, ⟨congrArg ('?' :: ·) hsplit, fun s _ => ?_⟩, hpiece⟩
    show groupToken ('?' :: c :: (flags ++ s)) = _
    rw [groupToken_flags hc]
    exact hs s
  case h_12 heq => cases h
  case h_13 =>
    rename_i hone hnone
    rcases t with _ | ⟨c, t⟩
    · exact absurd rfl hnone
    · exact absurd rfl (hone c t)

/-- A parenthesis before anything but a question mark opens a group without a name. -/
lemma groupToken_of_head {t : Text} (h : t.head? ≠ some '?') :
    groupToken t = .ok (.opening (.capture none), t) := by
  unfold groupToken
  split <;> first | rfl | exact absurd rfl h

/-! ## Repetition -/

/-- The character that says what a loop prefers is passed, and a loop is local. -/
lemma exists_piece_of_withPreference {least : Nat} {most : Option Nat} {t rest : Text} {k : Token}
    (h : withPreference least most t = (k, rest)) :
    ∃ piece, (∀ c ∈ piece, isOrdinary false c) ∧ t = piece ++ rest ∧
      ∀ s, SameUpTo '(' rest s → withPreference least most (piece ++ s) = (k, s) := by
  unfold withPreference at h
  split at h
  · cases h
    exact ⟨['?'], by simp [isOrdinary], rfl, fun s _ => rfl⟩
  · cases h
    exact ⟨['+'], by simp [isOrdinary], rfl, fun s _ => rfl⟩
  · rename_i hquestion hplus
    cases h
    refine ⟨[], by simp, rfl, fun s hs => ?_⟩
    rcases t with _ | ⟨d, u⟩
    · cases hs
    · obtain ⟨v, rfl⟩ := hs.exists_cons
      have hd : d ≠ '?' ∧ d ≠ '+' :=
        ⟨fun hd => hquestion u (hd ▸ rfl), fun hd => hplus u (hd ▸ rfl)⟩
      simp [withPreference, hd.1, hd.2]

/-- A loop with bounds is local after its closing brace. -/
lemma exists_piece_of_boundedLoop {low high t rest : Text} {k : Token}
    (h : boundedLoop low high t = .ok (k, rest)) :
    ∃ piece, (∀ c ∈ piece, isOrdinary false c) ∧ t = piece ++ rest ∧
      ∀ s, SameUpTo '(' rest s → boundedLoop low high (piece ++ s) = .ok (k, s) := by
  unfold boundedLoop at h
  split at h
  · cases h
  · cases h
  · rename_i least most hlow hhigh
    split_ifs at h with horder
    obtain ⟨piece, hpiece, ht, hs⟩ := exists_piece_of_withPreference (Except.ok.inj h)
    refine ⟨piece, hpiece, ht, fun s hrest => ?_⟩
    simp only [boundedLoop, hlow, hhigh]
    rw [if_neg horder, hs s hrest]

/-- After a comma stands the upper bound. -/
lemma boundsToken_of_comma {t after : Text} (h : t.dropWhile Char.isDigit = ',' :: after) :
    boundsToken t =
      match after.dropWhile Char.isDigit with
      | '}' :: rest =>
        boundedLoop (t.takeWhile Char.isDigit) (after.takeWhile Char.isDigit) rest
      | _ => .ok (.item (.char '{'), t) := by
  rw [boundsToken, h]
  rfl

/-- Bounds with a comma are passed, and so is a brace that opens none; they are local. -/
lemma exists_piece_of_comma {t after rest : Text} {k : Token}
    (hafter : t.dropWhile Char.isDigit = ',' :: after) (h : boundsToken t = .ok (k, rest)) :
    ∃ piece, CutsOff boundsToken t k piece rest ∧ ∀ c ∈ piece, isOrdinary false c := by
  have hparen : Char.isDigit '(' = false := by decide
  rw [boundsToken_of_comma hafter] at h
  split at h
  · rename_i last hlast
    obtain ⟨piece, hpiece, rfl, hs⟩ := exists_piece_of_boundedLoop h
    obtain ⟨ht, hspan⟩ := span_of_dropWhile hafter
    obtain ⟨hhigh, hspanHigh⟩ := span_of_dropWhile hlast
    refine ⟨t.takeWhile Char.isDigit ++ ',' :: (after.takeWhile Char.isDigit ++ '}' :: piece),
      ⟨?_, fun s hrest => ?_⟩, ?_⟩
    · rw [List.append_assoc, List.cons_append, List.append_assoc, List.cons_append, ← hhigh]
      exact ht
    · rw [List.append_assoc, List.cons_append, List.append_assoc, List.cons_append,
        boundsToken_of_comma (hspan _).2, (hspan _).1, (hspanHigh _).1, (hspanHigh _).2]
      exact hs s hrest
    · have hhigher := isOrdinary_of_mem_run (t := after) isOrdinary_of_isDigit
        (List.forall_mem_cons.mpr ⟨(by decide : isOrdinary false '}'), hpiece⟩)
      exact isOrdinary_of_mem_run isOrdinary_of_isDigit
        (List.forall_mem_cons.mpr ⟨by decide, hhigher⟩)
  · -- no brace after the digits that follow the comma
    rename_i hno
    cases h
    refine ⟨[], ⟨rfl, fun s hs => ?_⟩, by simp⟩
    have hdrop := hafter ▸ hs.dropWhile hparen
    obtain ⟨v, hv⟩ := hdrop.exists_cons
    have hsame := ((hv ▸ hdrop).of_cons (by decide)).dropWhile hparen
    rw [List.nil_append, boundsToken_of_comma hv]
    split
    · rename_i last hlast
      obtain ⟨u, hu⟩ := (hlast ▸ hsame).symm.exists_cons
      exact absurd hu (hno u)
    · rfl

/-- Bounds are passed, and so is a brace that opens none; they are local. -/
lemma exists_piece_of_boundsToken {t rest : Text} {k : Token} (h : boundsToken t = .ok (k, rest)) :
    ∃ piece, CutsOff boundsToken t k piece rest ∧ ∀ c ∈ piece, isOrdinary false c := by
  have hparen : Char.isDigit '(' = false := by decide
  have hwhole := h
  unfold boundsToken at h
  dsimp only at h
  split at h
  · rename_i after hafter
    split_ifs at h with hempty
    · -- a brace before a brace
      cases h
      refine ⟨[], ⟨rfl, fun s hs => ?_⟩, by simp⟩
      obtain ⟨v, hv⟩ := (hafter ▸ hs.dropWhile hparen).exists_cons
      rw [List.nil_append, boundsToken, ← hs.takeWhile_eq hparen, hv]
      exact if_pos hempty
    · obtain ⟨piece, hpiece, rfl, hs⟩ := exists_piece_of_boundedLoop h
      obtain ⟨ht, hspan⟩ := span_of_dropWhile hafter
      refine ⟨t.takeWhile Char.isDigit ++ '}' :: piece, ⟨?_, fun s hrest => ?_⟩, ?_⟩
      · rw [List.append_assoc, List.cons_append]
        exact ht
      · rw [List.append_assoc, List.cons_append, boundsToken, (hspan _).1, (hspan _).2]
        exact (if_neg hempty).trans (hs s hrest)
      · exact isOrdinary_of_mem_run isOrdinary_of_isDigit
          (List.forall_mem_cons.mpr ⟨by decide, hpiece⟩)
  · rename_i after hafter
    exact exists_piece_of_comma hafter hwhole
  · -- neither a brace nor a comma after the digits
    rename_i hbrace hcomma
    cases h
    refine ⟨[], ⟨rfl, fun s hs => ?_⟩, by simp⟩
    have hdrop := hs.dropWhile hparen
    rw [List.nil_append, boundsToken]
    dsimp only
    split
    · rename_i last hlast
      obtain ⟨u, hu⟩ := (hlast ▸ hdrop).symm.exists_cons
      exact absurd hu (hbrace u)
    · rename_i last hlast
      obtain ⟨u, hu⟩ := (hlast ▸ hdrop).symm.exists_cons
      exact absurd hu (hcomma u)
    · rfl

/-! ## All together -/

/-- A loop opens no group. -/
lemma withPreference_ne_opening {least : Nat} {most : Option Nat} {t rest : Text} {o : Opening} :
    withPreference least most t ≠ (.opening o, rest) := by
  unfold withPreference
  split <;> exact fun h => Token.noConfusion (Prod.mk.inj h).1

/-- A brace opens no group. -/
lemma boundsToken_ne_opening {t rest : Text} {o : Opening} :
    boundsToken t ≠ .ok (.opening o, rest) := by
  have hloop : ∀ low high u, boundedLoop low high u ≠ .ok (.opening o, rest) := by
    intro low high u h
    unfold boundedLoop at h
    split at h
    · cases h
    · cases h
    · split_ifs at h
      exact withPreference_ne_opening (Except.ok.inj h)
  intro h
  unfold boundsToken at h
  dsimp only at h
  repeat' split at h
  all_goals first | cases h | exact hloop _ _ _ h

/-- A question mark after the parenthesis means that the group has a name or captures nothing. -/
lemma groupToken_ne_capture {t rest : Text} :
    groupToken ('?' :: t) ≠ .ok (.opening (.capture none), rest) := by
  intro h
  unfold groupToken at h
  split at h
  case h_1 | h_2 | h_9 =>
    obtain ⟨_, _, heq⟩ := map_eq_ok_iff.mp h
    cases heq
  case h_10 => exact absurd (isPlain_of_conditionToken h) (by decide)
  case h_11 =>
    split_ifs at h
    unfold flagsToken at h
    dsimp only at h
    repeat' split at h
    all_goals cases h
  case h_13 =>
    rename_i hone hnone
    rcases t with _ | ⟨c, t⟩
    · exact hnone rfl
    · exact hone c t rfl
  all_goals cases h

section

variable [CharacterNames]

/-- An escape opens no group. -/
lemma escapeToken_ne_opening {t rest : Text} {o : Opening} :
    escapeToken t ≠ .ok (.opening o, rest) := by
  intro h
  unfold escapeToken at h
  repeat' split at h
  all_goals try cases h
  obtain ⟨_, _, heq⟩ := map_eq_ok_iff.mp h
  cases heq

/-- A class opens no group. -/
lemma classToken_ne_opening {t rest : Text} {o : Opening} :
    classToken t ≠ .ok (.opening o, rest) := by
  intro h
  obtain ⟨_, _, heq⟩ := map_eq_ok_iff.mp h
  cases heq

/-- Only a parenthesis opens a group. -/
lemma nextToken_eq_opening {c : Char} {t rest : Text} {o : Opening}
    (h : nextToken false c t = .ok (.opening o, rest)) :
    c = '(' ∧ groupToken t = .ok (.opening o, rest) := by
  unfold nextToken at h
  simp only [Bool.false_and, Bool.false_eq_true, if_false] at h
  split at h
  · exact absurd h escapeToken_ne_opening
  · exact absurd h classToken_ne_opening
  · exact ⟨rfl, h⟩
  · cases h
  · cases h
  · cases h
  · cases h
  · cases h
  · exact absurd (Except.ok.inj h) withPreference_ne_opening
  · exact absurd (Except.ok.inj h) withPreference_ne_opening
  · exact absurd (Except.ok.inj h) withPreference_ne_opening
  · exact absurd h boundsToken_ne_opening
  · cases h

/-- The parenthesis that opens a group without a name stands before anything but a question mark.
The scan stops there. -/
theorem nextToken_eq_capture {c : Char} {t rest : Text}
    (h : nextToken false c t = .ok (.opening (.capture none), rest)) :
    c = '(' ∧ t = rest ∧ t.head? ≠ some '?' := by
  obtain ⟨rfl, hgroup⟩ := nextToken_eq_opening h
  have hhead : t.head? ≠ some '?' := by
    intro hhead
    obtain ⟨u, rfl⟩ := List.head?_eq_some_iff.mp hhead
    exact groupToken_ne_capture hgroup
  rw [groupToken_of_head hhead] at hgroup
  cases hgroup
  exact ⟨rfl, rfl, hhead⟩

/-- The parenthesis that opens a group with a name stands before that name. -/
theorem nextToken_eq_named {c : Char} {t rest name : Text}
    (h : nextToken false c t = .ok (.opening (.capture (some name)), rest)) :
    c = '(' ∧ t = "?P<".toList ++ (name ++ '>' :: rest) ∧ Text.isIdentifier name := by
  obtain ⟨rfl, hgroup⟩ := nextToken_eq_opening h
  refine ⟨rfl, ?_⟩
  unfold groupToken at hgroup
  split at hgroup
  case h_1 u heq =>
    obtain ⟨found, hname, heq⟩ := map_eq_ok_iff.mp hgroup
    cases heq
    obtain ⟨rfl, hident, -⟩ := nameUntil_eq_ok hname
    exact ⟨rfl, hident⟩
  case h_2 | h_9 =>
    obtain ⟨_, _, heq⟩ := map_eq_ok_iff.mp hgroup
    cases heq
  case h_10 => exact absurd (isPlain_of_conditionToken hgroup).symm Bool.false_ne_true
  case h_11 =>
    split_ifs at hgroup
    unfold flagsToken at hgroup
    dsimp only at hgroup
    repeat' split at hgroup
    all_goals cases hgroup
  all_goals cases hgroup

end

/-- A character and a piece after it that together are a plain token: text without meaning for the
scan, an escape, the start of a group other than one that only captures, or a class. -/
inductive IsPiece : Char → Text → Prop
  | ordinary {c : Char} {piece : Text} (hc : isOrdinary false c)
      (hpiece : ∀ d ∈ piece, isOrdinary false d) : IsPiece c piece
  | escape (c : Char) {piece : Text} (hpiece : ∀ d ∈ piece, ∀ a, isOrdinary a d) :
      IsPiece '\\' (c :: piece)
  | extension {piece : Text} (hpiece : ∀ d ∈ piece, isOrdinary false d) : IsPiece '(' ('?' :: piece)
  | bracket {piece : Text} (hpass : Passes false ('[' :: piece) false)
      (hafter : ∀ s, afterClass? (piece ++ s) = some s) : IsPiece '[' piece

/-- The scan passes over a plain token that does not open a group without a name. -/
lemma IsPiece.passes {c : Char} {piece : Text} (h : IsPiece c piece) :
    Passes false (c :: piece) false := by
  cases h with
  | ordinary hc hpiece => exact .cons hc (.of_forall hpiece)
  | escape c hpiece =>
    exact (Passes.escape false c).append (.of_forall fun d hd => hpiece d hd false)
  | extension hpiece => exact Passes.extension.append (.of_forall hpiece)
  | bracket hpass _ => exact hpass

/-- **Plain tokens are pieces and local.** A token other than the opening of a group without a name
takes a piece of the text that the scan passes over, and the same token is read from that piece when
what follows it is changed beyond an opening parenthesis.

**Proof sketch.** By the character that begins the token. Escapes, classes, groups and bounds have
been dealt with; everything else is one character, which is neither a backslash nor a bracket. -/
theorem exists_piece_of_nextToken [CharacterNames] {c : Char} {t rest : Text} {k : Token}
    (h : nextToken false c t = .ok (k, rest)) (hk : k.isPlain)
    (hne : k ≠ .opening (.capture none)) :
    ∃ piece, CutsOff (nextToken false c) t k piece rest ∧ IsPiece c piece := by
  have hone : ∀ d l, (∀ s, nextToken false d s = .ok (l, s)) → isOrdinary false d →
      ∃ piece, CutsOff (nextToken false d) rest l piece rest ∧ IsPiece d piece :=
    fun d l hd hord => ⟨[], ⟨rfl, fun s _ => hd s⟩, .ordinary hord (by simp)⟩
  have hloop : ∀ d least most,
      (∀ s, nextToken false d s = .ok (withPreference least most s)) → isOrdinary false d →
      withPreference least most t = (k, rest) →
      ∃ piece, CutsOff (nextToken false d) t k piece rest ∧ IsPiece d piece := by
    intro d least most hd hord hpref
    obtain ⟨piece, hpiece, ht, hs⟩ := exists_piece_of_withPreference hpref
    refine ⟨piece, ⟨ht, fun s hrest => ?_⟩, .ordinary hord hpiece⟩
    rw [hd, hs s hrest]
  unfold nextToken at h
  simp only [Bool.false_and, Bool.false_eq_true, if_false] at h
  split at h
  · obtain ⟨d, piece, hcut, hpiece⟩ := exists_piece_of_escapeToken h
    exact ⟨d :: piece, ⟨hcut.split, hcut.again⟩, .escape d hpiece⟩
  · obtain ⟨piece, hcut, hpass, hafter⟩ := exists_piece_of_classToken h
    exact ⟨piece, ⟨hcut.split, hcut.again⟩, .bracket hpass hafter⟩
  · by_cases hhead : t.head? = some '?'
    · rcases t with _ | ⟨d, t⟩
      · cases hhead
      · obtain rfl := Option.some.inj hhead
        obtain ⟨piece, hcut, hpiece⟩ := exists_piece_of_groupToken h hk
        exact ⟨'?' :: piece, ⟨hcut.split, hcut.again⟩, .extension hpiece⟩
    · rw [groupToken_of_head hhead] at h
      cases h
      exact absurd rfl hne
  · cases h
    exact hone _ _ (fun s => rfl) (by decide)
  · cases h
    exact hone _ _ (fun s => rfl) (by decide)
  · cases h
    exact hone _ _ (fun s => rfl) (by decide)
  · cases h
    exact hone _ _ (fun s => rfl) (by decide)
  · cases h
    exact hone _ _ (fun s => rfl) (by decide)
  · exact hloop _ _ _ (fun s => rfl) (by decide) (Except.ok.inj h)
  · exact hloop _ _ _ (fun s => rfl) (by decide) (Except.ok.inj h)
  · exact hloop _ _ _ (fun s => rfl) (by decide) (Except.ok.inj h)
  · obtain ⟨piece, hcut, hpiece⟩ := exists_piece_of_boundsToken h
    exact ⟨piece, ⟨hcut.split, hcut.again⟩, .ordinary (by decide) hpiece⟩
  · rename_i hback hopen hparen _ _ _ _ _ _ _ _ _
    cases h
    refine hone c _ (fun s => ?_) ?_
    · unfold nextToken
      simp only [Bool.false_and, Bool.false_eq_true, if_false]
    · simpa [isOrdinary] using ⟨hback, hopen, hparen⟩

/-! ## Parentheses within tokens -/

/-- A parenthesis that is not in the first of two texts is in the second. -/
lemma exists_of_append_eq {piece rest a s : Text} (hpiece : '(' ∉ piece)
    (h : piece ++ rest = a ++ '(' :: s) : ∃ a', a = piece ++ a' ∧ rest = a' ++ '(' :: s := by
  rcases List.append_eq_append_iff.mp h with ⟨a', ha, hrest⟩ | ⟨later, hlater, hcons⟩
  · exact ⟨a', ha, hrest⟩
  · rcases later with _ | ⟨c, later⟩
    · exact ⟨[], by simpa using hlater.symm, hcons.symm⟩
    · obtain rfl := (List.cons.inj hcons).1
      exact absurd (hlater ▸ List.mem_append_right a List.mem_cons_self) hpiece

/-- Text without meaning for the scan has no opening parenthesis. -/
lemma not_mem_of_isOrdinary {t : Text} (h : ∀ c ∈ t, isOrdinary false c) : '(' ∉ t :=
  fun hmem => absurd (h '(' hmem) (by decide)

/-- **Where a parenthesis stands that does not begin a token**: it is left for later tokens, or it
is escaped, or it is in a class, which ends where it would end if the class began after the
parenthesis. -/
theorem IsPiece.cut {c : Char} {piece rest a s : Text} (h : IsPiece c piece)
    (hsplit : piece ++ rest = a ++ '(' :: s) :
    (∃ a', a = piece ++ a' ∧ rest = a' ++ '(' :: s) ∨ (c = '\\' ∧ a = []) ∨
      (c = '[' ∧ ∀ t, afterClass? (a ++ '(' :: t) = afterBracket? t) := by
  cases h with
  | ordinary hc hpiece => exact .inl (exists_of_append_eq (not_mem_of_isOrdinary hpiece) hsplit)
  | escape d hpiece =>
    rcases a with _ | ⟨e, a⟩
    · exact .inr (.inl ⟨rfl, rfl⟩)
    · obtain ⟨rfl, htail⟩ := List.cons.inj hsplit
      have hmem := not_mem_of_isOrdinary fun e he => hpiece e he false
      obtain ⟨a', rfl, hrest⟩ := exists_of_append_eq hmem htail
      exact .inl ⟨a', rfl, hrest⟩
  | extension hpiece =>
    have hmem : '(' ∉ '?' :: _ :=
      not_mem_of_isOrdinary (List.forall_mem_cons.mpr ⟨by decide, hpiece⟩)
    exact .inl (exists_of_append_eq hmem hsplit)
  | bracket hpass hafter =>
    rcases afterClass?_cut a with ⟨a', hcut⟩ | hcut
    · -- the class ends before the parenthesis
      have hrest := hafter rest
      rw [hsplit, hcut, Option.some.injEq] at hrest
      refine .inl ⟨a', ?_, hrest.symm⟩
      rw [← hrest, ← List.append_assoc] at hsplit
      exact (List.append_cancel_right hsplit).symm
    · exact .inr (.inr ⟨rfl, hcut⟩)

end DeclIndex.Pattern
