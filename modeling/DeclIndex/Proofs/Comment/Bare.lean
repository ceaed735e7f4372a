import DeclIndex.Proofs.Comment.Halting
import DeclIndex.Proofs.Comment.Marker

/-!
# Bare texts

A text is bare if it neither begins nor ends with a marker or with white space. Stripping a line
makes it bare, and takes nothing off its ends but markers and the white space next to them.

The second loop only shortens a line from the end. So what begins with a marker after it would have
begun with that marker before, when the first loop had just come to an end. Hence the two loops,
each of which ends when its own end of the line is clear, leave both ends clear.

## Main definitions

* `Comment.IsBare` — a text that neither begins nor ends with a marker or with white space.
* `Comment.IsShed` — markers, each with white space beside it.

## Main results

* `Comment.exists_of_reaches_passStart`, `Comment.exists_of_reaches_passEnd` — what the loops take
  off a line.
* `Comment.isBare_strip` — a stripped line is bare.
* `Comment.strip_to_bare` — stripping ends, and its result is the line without its shed ends.
-/

namespace DeclIndex.Comment

open Text
open StateTransition (Reaches mem_eval)

variable {markers : List Text} {line next rest : Text}

/-- A text that neither begins nor ends with white space or with a marker. -/
structure IsBare (markers : List Text) (t : Text) : Prop where
  trimmed : trim t = t
  no_opening : ∀ m ∈ markers, ¬ m <+: t
  no_ending : ∀ m ∈ markers, ¬ m <:+ t

/-- Markers, each with white space beside it. -/
def IsShed (markers : List Text) (shed : List (Text × Text)) : Prop :=
  ∀ piece ∈ shed, piece.1 ∈ markers ∧ ∀ c ∈ piece.2, isBlank c = true

/-! ## One pass -/

/-- A pass over the start of a line takes off a marker and the white space after it. -/
lemma exists_of_passStart (h : passStart markers line = some next) :
    ∃ m ∈ markers, ∃ w : Text, (∀ c ∈ w, isBlank c = true) ∧ line = m ++ w ++ next ∧
      next.head?.any isBlank = false := by
  unfold passStart at h
  split at h
  · cases h
  · obtain ⟨m, hm, rfl⟩ := Option.map_eq_some_iff.mp h
    obtain ⟨hmem, ⟨t, rfl⟩, -⟩ := opening?_eq_some_iff.mp hm
    refine ⟨m, hmem, t.takeWhile isBlank, fun c hc => List.mem_takeWhile_imp hc, ?_, ?_⟩
    · rw [List.drop_left, List.append_assoc, trimStart, List.takeWhile_append_dropWhile]
    · exact any_head?_trimStart _

/-- A pass over the end of a line takes off a marker and the white space before it. -/
lemma exists_of_passEnd (h : passEnd markers line = some next) :
    ∃ m ∈ markers, ∃ w : Text, (∀ c ∈ w, isBlank c = true) ∧ line = next ++ w ++ m ∧
      next.getLast?.any isBlank = false := by
  unfold passEnd at h
  split at h
  · cases h
  · obtain ⟨m, hm, rfl⟩ := Option.map_eq_some_iff.mp h
    obtain ⟨hmem, ⟨t, rfl⟩, -⟩ := ending?_eq_some_iff.mp hm
    have htake : (t ++ m).take ((t ++ m).length - m.length) = t := by
      rw [List.length_append, Nat.add_sub_cancel, List.take_left]
    refine ⟨m, hmem, (t.reverse.takeWhile isBlank).reverse, fun c hc => ?_, ?_, ?_⟩
    · exact List.mem_takeWhile_imp (List.mem_reverse.mp hc)
    · rw [htake, trimEnd, ← List.reverse_append, List.takeWhile_append_dropWhile,
        List.reverse_reverse]
    · exact any_getLast?_trimEnd _

section

variable (hempty : [] ∉ markers)

include hempty

/-- No pass over the start of a line is needed if no marker stands there. -/
lemma passStart_eq_none_iff : passStart markers line = none ↔ ∀ m ∈ markers, ¬ m <+: line := by
  unfold passStart
  split
  · rename_i hline
    rw [List.isEmpty_iff.mp hline]
    refine iff_of_true rfl fun m hm hprefix => hempty ?_
    rwa [← List.prefix_nil.mp hprefix]
  · rw [Option.map_eq_none_iff, opening?_eq_none_iff]

/-- No pass over the end of a line is needed if no marker stands there. -/
lemma passEnd_eq_none_iff : passEnd markers line = none ↔ ∀ m ∈ markers, ¬ m <:+ line := by
  unfold passEnd
  split
  · rename_i hline
    rw [List.isEmpty_iff.mp hline]
    refine iff_of_true rfl fun m hm hsuffix => hempty ?_
    rwa [← List.suffix_nil.mp hsuffix]
  · rw [Option.map_eq_none_iff, ending?_eq_none_iff]

end

/-! ## Runs of passes -/

/-- Passes over the start of a line take off markers, each with the white space after it, and leave
no white space there. -/
lemma exists_of_reaches_passStart (h : Reaches (passStart markers) line rest)
    (hline : line.head?.any isBlank = false) :
    (∃ shed, IsShed markers shed ∧ line = shed.flatMap (fun piece => piece.1 ++ piece.2) ++ rest) ∧
      rest.head?.any isBlank = false := by
  induction h with
  | refl => exact ⟨⟨[], fun _ h => absurd h List.not_mem_nil, rfl⟩, hline⟩
  | tail _ hpass ih =>
    obtain ⟨⟨shed, hshed, hsplit⟩, -⟩ := ih
    obtain ⟨m, hm, w, hw, rfl, hhead⟩ := exists_of_passStart hpass
    refine ⟨⟨shed ++ [(m, w)], fun piece hpiece => ?_, ?_⟩, hhead⟩
    · rcases List.mem_append.mp hpiece with hpiece | hpiece
      · exact hshed piece hpiece
      · rw [List.mem_singleton.mp hpiece]
        exact ⟨hm, hw⟩
    · rw [hsplit, List.flatMap_append, List.flatMap_singleton]
      simp only [List.append_assoc]

/-- Passes over the end of a line take off markers, each with the white space before it, and leave
no white space there. -/
lemma exists_of_reaches_passEnd (h : Reaches (passEnd markers) line rest)
    (hline : line.getLast?.any isBlank = false) :
    (∃ shed, IsShed markers shed ∧ line = rest ++ shed.flatMap fun piece => piece.2 ++ piece.1) ∧
      rest.getLast?.any isBlank = false := by
  induction h with
  | refl => exact ⟨⟨[], fun _ h => absurd h List.not_mem_nil, by simp⟩, hline⟩
  | tail _ hpass ih =>
    obtain ⟨⟨shed, hshed, hsplit⟩, -⟩ := ih
    obtain ⟨m, hm, w, hw, rfl, hlast⟩ := exists_of_passEnd hpass
    refine ⟨⟨(m, w) :: shed, fun piece hpiece => ?_, ?_⟩, hlast⟩
    · rcases List.mem_cons.mp hpiece with rfl | hpiece
      · exact ⟨hm, hw⟩
      · exact hshed piece hpiece
    · rw [hsplit, List.flatMap_cons]
      simp only [List.append_assoc]

/-! ## Stripped lines -/

section

variable (hempty : [] ∉ markers)

include hempty

/-- **A stripped line is bare**, and only markers and the white space next to them were taken off
its ends.

**Proof sketch.** Each loop ends where its pass finds nothing more, so that no marker stands at its
end of the line. Passes leave no white space at their end. The first loop leaves an end of the
trimmed line, which ends without white space like the line. The second leaves a beginning of that,
which begins without white space and without a marker like the whole. -/
lemma isBare_strip (line : Text) :
    IsBare markers (strip markers line) ∧
      ∃ before after, IsShed markers before ∧ IsShed markers after ∧
        trim line = before.flatMap (fun piece => piece.1 ++ piece.2) ++ strip markers line ++
          after.flatMap fun piece => piece.2 ++ piece.1 := by
  have hstart : strip markers line = stripEnd markers
      (stripStart markers (trim line).length (trim line)).length
      (stripStart markers (trim line).length (trim line)) := rfl
  obtain ⟨hreaches, hnone⟩ := mem_eval.mp
    (eval_passStart hempty (trim line) ▸ Part.mem_some _)
  generalize stripStart markers (trim line).length (trim line) = start at *
  obtain ⟨hreaches', hnone'⟩ := mem_eval.mp (eval_passEnd hempty start ▸ Part.mem_some _)
  rw [← hstart] at hreaches' hnone'
  obtain ⟨⟨before, hbefore, hsplit⟩, hhead⟩ :=
    exists_of_reaches_passStart hreaches (any_head?_trim line)
  have hlast : start.getLast?.any isBlank = false :=
    any_getLast?_of_suffix ⟨_, hsplit.symm⟩ (any_getLast?_trim line)
  obtain ⟨⟨after, hafter, hsplit'⟩, hlast'⟩ := exists_of_reaches_passEnd hreaches' hlast
  have hprefix : strip markers line <+: start := ⟨_, hsplit'.symm⟩
  refine ⟨⟨trim_eq_self_iff.mpr ⟨?_, hlast'⟩, fun m hm hopening => ?_, ?_⟩, before, after,
    hbefore, hafter, ?_⟩
  · exact any_head?_of_prefix hprefix hhead
  · exact (passStart_eq_none_iff hempty).mp hnone m hm (hopening.trans hprefix)
  · exact (passEnd_eq_none_iff hempty).mp hnone'
  · rw [hsplit, hsplit', List.append_assoc]

end

/-- Nothing is stripped from the start of a line where no marker stands. -/
lemma stripStart_eq_self (h : ∀ m ∈ markers, ¬ m <+: line) (n : Nat) :
    stripStart markers n line = line := by
  cases n with
  | zero => rfl
  | succ n => rw [stripStart, opening?_eq_none_iff.mpr h, ite_self]

/-- Nothing is stripped from the end of a line where no marker stands. -/
lemma stripEnd_eq_self (h : ∀ m ∈ markers, ¬ m <:+ line) (n : Nat) :
    stripEnd markers n line = line := by
  cases n with
  | zero => rfl
  | succ n => rw [stripEnd, ending?_eq_none_iff.mpr h, ite_self]

/-- Nothing is stripped from a bare text. -/
lemma IsBare.strip_eq (h : IsBare markers line) : strip markers line = line := by
  unfold strip
  dsimp only
  rw [h.trimmed, stripStart_eq_self h.no_opening, stripEnd_eq_self h.no_ending]

/-- **Stripping reaches a bare text.** Without an empty marker the loops over a line end. Their
result begins and ends neither with white space nor with a marker, the trimmed line is the result
with markers and white space on both sides, and stripping the result changes nothing.

**Proof sketch.** The loops end because each pass makes the line shorter (`Run.gives_strip`). What
they leave is bare (`isBare_strip`), and of a bare text nothing is stripped. -/
theorem strip_to_bare (hempty : [] ∉ markers) (line : Text) :
    (Run.strip markers line).result = Part.some (strip markers line) ∧
      IsBare markers (strip markers line) ∧
      (∃ before after, IsShed markers before ∧ IsShed markers after ∧
        trim line = before.flatMap (fun piece => piece.1 ++ piece.2) ++ strip markers line ++
          after.flatMap fun piece => piece.2 ++ piece.1) ∧
      strip markers (strip markers line) = strip markers line := by
  obtain ⟨hbare, hshed⟩ := isBare_strip hempty line
  exact ⟨(Run.gives_strip hempty line).result, hbare, hshed, hbare.strip_eq⟩

/-- A line whose two ends hold markers that overlap. -/
theorem strip_to_bare_of_overlapping_markers :
    [] ∉ defaultMarkers ∧
      (Run.strip defaultMarkers " /*** //Short sum. **/*/").result =
        Part.some ("Short sum." : Text) ∧
      IsBare defaultMarkers "Short sum." ∧
      (∃ before after, IsShed defaultMarkers before ∧ IsShed defaultMarkers after ∧
        trim " /*** //Short sum. **/*/" =
          before.flatMap (fun piece => piece.1 ++ piece.2) ++ "Short sum." ++
            after.flatMap fun piece => piece.2 ++ piece.1) ∧
      strip defaultMarkers "Short sum." = "Short sum." := by
  have hempty : [] ∉ defaultMarkers := by decide
  have hstrip : strip defaultMarkers " /*** //Short sum. **/*/" = "Short sum." := by decide
  have hbare := strip_to_bare hempty " /*** //Short sum. **/*/"
  rw [hstrip] at hbare
  exact ⟨hempty, hbare⟩

end DeclIndex.Comment
