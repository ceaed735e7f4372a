import DeclIndex.Language.Rust
import DeclIndex.Proofs.Scan.Task
import DeclIndex.Proofs.Text.LineEnds

/-!
# Files with any line ends

A file is read with its line ends made one, but it has the outline of the text that was decoded,
with the same line numbers. Exchanging its line ends for others leaves the outline unchanged as long
as the lines are kept, and they are kept unless two line ends become one.

## Main results

* `Profile.outline_unifyBreaks` — the outline of a text does not depend on its line ends.
* `Scanner.outcome_of_line_ends` — a file has the outline of its text, whatever its line ends.
-/

namespace DeclIndex

open Text

/-- The outline of a text is that of the text with its line ends made one. -/
lemma Profile.outline_unifyBreaks (p : Profile) (path t : Text) :
    p.outline path (unifyBreaks t) = p.outline path t := by
  rw [outline, splitLines_unifyBreaks, outline]

/-- The outline of a text is made of its lines. -/
lemma Profile.outline_of_splitLines_eq {t t' : Text} (h : splitLines t' = splitLines t)
    (p : Profile) (path : Text) : p.outline path t' = p.outline path t := by
  rw [outline, h, outline]

/-- **A file has the outline of its text**, whatever its line ends. Reading makes all line ends one,
which changes neither the lines nor the outline. Every text is made of lines with their ends; if its
ends are exchanged for others, the lines are kept exactly if no two ends are joined to one, and then
the outline is the same.

**Proof sketch.** Cutting into lines does not tell the line ends apart
(`Text.splitLines_unifyBreaks`). Joined line ends are one line fewer
(`Text.splitLines_withEnds_eq_iff`). -/
theorem Scanner.outcome_of_line_ends :
    (∀ t, splitLines (unifyBreaks t) = splitLines t) ∧
    (∀ (p : Profile) (path t : Text), p.outline path (unifyBreaks t) = p.outline path t) ∧
    (∀ (s : Scanner) (p : Profile) (path : Path) (content : Bytes) (t : Text),
      s.isTooLarge content.length = false → Utf8.decode content = .ok t →
      s.outcome p path (.readable content) = .outlined (p.outline path.text t)) ∧
    (∀ t, ∃ lines last, (∀ l ∈ lines, IsUnended l.1) ∧ IsUnended last ∧
      joinsEnds lines = false ∧ withEnds lines last = t) ∧
    ∀ (lines lines' : List (Text × LineEnd)) (last : Text),
      (∀ l ∈ lines, IsUnended l.1) → IsUnended last → joinsEnds lines = false →
      lines'.map (·.1) = lines.map (·.1) →
      (splitLines (withEnds lines' last) = splitLines (withEnds lines last) ↔
        joinsEnds lines' = false) ∧
      (joinsEnds lines' = false → ∀ (p : Profile) (path : Text),
        p.outline path (withEnds lines' last) = p.outline path (withEnds lines last)) := by
  refine ⟨splitLines_unifyBreaks, Profile.outline_unifyBreaks, ?_, exists_withEnds, ?_⟩
  · intro s p path content t hlarge hdecode
    have houtcome : s.outcome p path (.readable content) =
        .outlined (p.outline path.text (unifyBreaks t)) :=
      (outcome_eq_outlined_iff s).mpr ⟨content, t, rfl, hlarge, hdecode, rfl⟩
    rw [houtcome, p.outline_unifyBreaks]
  · intro lines lines' last hlines hlast hjoin hsame
    have hkept := splitLines_withEnds_eq_iff hlines hlast hjoin hsame
    exact ⟨hkept, fun hjoin' => Profile.outline_of_splitLines_eq (hkept.mpr hjoin')⟩

/-- Two functions of Rust with an empty line between them, in a file whose lines end in all three
ways, and after its ends are exchanged. A carriage return before the line feed that ends the empty
line would be joined with it. -/
theorem Scanner.outcome_of_line_ends_rust :
    let content := Utf8.encode "/// One.\r\nfn a() {}\r\rfn b() {}\n"
    let ended : List LineEnd → List (Text × LineEnd) := fun ends =>
      ["/// One.".toList, "fn a() {}".toList, [], "fn b() {}".toList].zip ends
    let lines := ended [.pair, .carriageReturn, .carriageReturn, .lineFeed]
    let lines' := ended [.lineFeed, .lineFeed, .pair, .carriageReturn]
    ({} : Scanner).outcome Language.rust (Path.ofText "a.rs") (.readable content) =
      .outlined (Language.rust.outline "a.rs" (withEnds lines [])) ∧
    Language.rust.outline "a.rs" (withEnds lines' []) =
      Language.rust.outline "a.rs" (withEnds lines []) ∧
    splitLines (withEnds (ended [.pair, .carriageReturn, .lineFeed, .lineFeed]) []) ≠
      splitLines (withEnds lines []) := by
  intro content ended lines lines'
  obtain ⟨-, -, hread, -, hexchange⟩ := Scanner.outcome_of_line_ends
  have hlines : ∀ l ∈ lines, IsUnended l.1 := by decide
  refine ⟨hread _ _ _ _ _ (by decide +kernel) (by decide +kernel), ?_, ?_⟩
  · exact (hexchange lines lines' [] hlines (by decide) (by decide) rfl).2 (by decide) _ _
  · intro heq
    have hjoin := (hexchange lines (ended [.pair, .carriageReturn, .lineFeed, .lineFeed]) [] hlines
      (by decide) (by decide) rfl).1.mp heq
    exact absurd hjoin (by decide)

end DeclIndex
