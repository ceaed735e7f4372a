import DeclIndex.Proofs.CommandLine.Stop

/-!
# How calls fail

A call that fails with status 1 has done nothing but to print messages, the last of which tells the
reason. That holds on each way through the program, since nothing is written before the report is
there, and nothing can go wrong after it is written.

There are also things that the program is not prepared for: values of the wrong kind in a
configuration, limits of the readers, and paths that the host does not even look up. Then a call
breaks off without a message that tells why, which is neither success nor failure.

## Main definitions

* `Stop.ending` — how a call ends that stops.

## Main results

* `Call.ends_or_exists_stopsFor` — a call ends well or as the reason says that it stops for.
* `Call.changes_nothing_of_status_one` — **a call that fails changes nothing** and tells the reason.
* `Call.ends_or_misfits` — **a call ends well, fails with a message, or breaks off.**
-/

namespace DeclIndex.CommandLine

/-- How a call ends that stops. -/
def Stop.ending : Stop → Ending
  | .message _ => .status 1
  | .misfit m => .misfit m

namespace Call

section

variable [Host] {c : Call}

/-- How a call ends that stops for a reason. -/
lemma ending_of_stopsFor {r : Reason} (h : StopsFor c r) : c.run.ending = r.stop.ending := by
  obtain ⟨a, lines, -, hrun | ⟨rfl, files, hrun⟩⟩ := run_of_stopsFor h
  · rw [hrun]
    cases r.stop <;> rfl
  · rw [hrun]
    rfl

/-- A call that stops for a reason with a message does nothing but to print messages. -/
lemma run_of_stopsFor_message {r : Reason} {t : Text} (h : StopsFor c r)
    (ht : r.stop = .message t) :
    ∃ a lines, Request.read c.arguments = .run a ∧
      c.run = c.stopped (note a lines) (.message t) := by
  obtain ⟨a, lines, hread, hrun | ⟨rfl, -⟩⟩ := run_of_stopsFor h
  · exact ⟨a, lines, hread, ht ▸ hrun⟩
  · cases ht

/-- **A call ends well or stops for a reason**, if its arguments make sense. -/
lemma ends_or_exists_stopsFor (hread : Request.read c.arguments ≠ .unclear) :
    c.run.ending = .status 0 ∨ ∃ r, StopsFor c r ∧ c.run.ending = r.stop.ending := by
  cases h : Request.read c.arguments with
  | run a =>
    refine (exists_stopsFor_or_ends h).symm.imp_right ?_
    rintro ⟨r, hr⟩
    exact ⟨r, hr, ending_of_stopsFor hr⟩
  | help => exact .inl (by rw [run, h]; rfl)
  | version => exact .inl (by rw [run, h]; rfl)
  | unclear => exact absurd h hread

/-- **A call that fails changes nothing.** A call fails exactly if it stops for a reason that has a
message. Then it has printed nothing but messages, the last of which tells the reason, and the files
are as they were.

**Proof sketch.** A call ends well or stops for a reason (`ends_or_exists_stopsFor`), and a call
that stops does nothing but to print messages (`run_of_stopsFor`). Only for a reason with a message
is its status 1. -/
theorem changes_nothing_of_status_one (c : Call) :
    (c.run.ending = .status 1 ↔ ∃ r t, StopsFor c r ∧ r.stop = .message t) ∧
      (c.run.ending = .status 1 → c.run.output = [] ∧ c.run.files = c.files ∧
        ∃ r t a lines, StopsFor c r ∧ r.stop = .message t ∧
          Request.read c.arguments = .run a ∧
            c.run.messages = note a lines ++ "Error: ".toList ++ t ++ ['\n']) := by
  have hstops : c.run.ending = .status 1 → ∃ r t, StopsFor c r ∧ r.stop = .message t := by
    intro hone
    have hread : Request.read c.arguments ≠ .unclear := by
      intro h
      rw [run, h] at hone
      cases hone
    obtain hzero | ⟨r, hr, hending⟩ := ends_or_exists_stopsFor hread
    · cases hzero.symm.trans hone
    · rw [hone] at hending
      cases hstop : r.stop with
      | message t => exact ⟨r, t, hr, hstop⟩
      | misfit m =>
        rw [hstop] at hending
        cases hending
  refine ⟨⟨hstops, ?_⟩, ?_⟩
  · rintro ⟨r, t, hr, ht⟩
    rw [ending_of_stopsFor hr, ht]
    rfl
  · intro hone
    obtain ⟨r, t, hr, ht⟩ := hstops hone
    obtain ⟨a, lines, hread, hrun⟩ := run_of_stopsFor_message hr ht
    rw [hrun]
    exact ⟨rfl, rfl, r, t, a, lines, hr, ht, hread, rfl⟩

end

/-- A configuration that is not there leaves an empty directory empty. -/
theorem changes_nothing_of_missing_config :
    let _ : Host := .bare
    let c : Call := {
      arguments := ["--verbose", "--config", "c.json", "--output", "outline.txt"]
      files := .empty
      here := Path.ofText "/"
      time := "now" }
    c.run.ending = .status 1 ∧ c.run.output = [] ∧ c.run.files = .empty ∧
      ∃ r t a lines, StopsFor c r ∧ r.stop = .message t ∧ Request.read c.arguments = .run a ∧
        c.run.messages = note a lines ++ "Error: ".toList ++ t ++ ['\n'] := by
  intro host c
  have hone : c.run.ending = .status 1 := by decide +kernel
  exact ⟨hone, (changes_nothing_of_status_one c).2 hone⟩

/-- **A call ends well, fails with a message, or breaks off**, if its arguments make sense. It
breaks off exactly if it stops for a reason without a message: values of the wrong kind in its
configuration, limits of the readers that it or its patterns pass, paths that the host does not
look up, or halves of characters that it is to print.

**Proof sketch.** A call ends well, or as the reason says that it stops for
(`ends_or_exists_stopsFor`); and the other way round (`ending_of_stopsFor`). -/
theorem ends_or_misfits [Host] {c : Call} (h : Request.read c.arguments ≠ .unclear) :
    (c.run.ending = .status 0 ∨
      (c.run.ending = .status 1 ∧
        ∃ before t, c.run.messages = before ++ "Error: ".toList ++ t ++ ['\n']) ∨
      ∃ m, c.run.ending = .misfit m) ∧
    ∀ m, c.run.ending = .misfit m ↔ ∃ r, StopsFor c r ∧ r.stop = .misfit m := by
  have hends := ends_or_exists_stopsFor h
  refine ⟨?_, fun m => ⟨fun hm => ?_, ?_⟩⟩
  · obtain hzero | ⟨r, hr, hending⟩ := hends
    · exact .inl hzero
    · cases hstop : r.stop with
      | message t =>
        obtain ⟨a, lines, -, hrun⟩ := run_of_stopsFor_message hr hstop
        rw [hstop] at hending
        exact .inr (.inl ⟨hending, note a lines, t, by rw [hrun]; rfl⟩)
      | misfit m =>
        rw [hstop] at hending
        exact .inr (.inr ⟨m, hending⟩)
  · rw [hm] at hends
    obtain hzero | ⟨r, hr, hending⟩ := hends
    · cases hzero
    · refine ⟨r, hr, ?_⟩
      cases hstop : r.stop <;> rw [hstop] at hending <;> cases hending
      rfl
  · rintro ⟨r, hr, hstop⟩
    rw [ending_of_stopsFor hr, hstop]
    rfl

/-- A call whose configuration writes its number of workers as a word. -/
def withWorkersInWords : Call where
  arguments := ["--config", "c.json"]
  files := .file "c.json"
    (.readable (Utf8.encode "\x7b\"scan\": \x7b\"workers\": \"two\"\x7d\x7d")) .empty
  here := Path.ofText "/"
  time := "now"

/-- The number of workers misfits if it is a word. -/
theorem misfits_of_workers_in_words :
    let _ : Host := .bare
    Request.read withWorkersInWords.arguments ≠ .unclear ∧
      ∃ r, StopsFor withWorkersInWords r ∧ r.stop = .misfit .workersNotANumber := by
  intro host
  have hread : Request.read withWorkersInWords.arguments ≠ .unclear := by decide +kernel
  exact ⟨hread, ((ends_or_misfits hread).2 .workersNotANumber).mp (by decide +kernel)⟩

/-- A call whose configuration writes its number of workers as a word has arguments that make sense
and a configuration that can be read, and neither ends well nor fails with a message. -/
theorem not_ends_of_workers_in_words :
    let _ : Host := .bare
    Request.read withWorkersInWords.arguments ≠ .unclear ∧
      (∃ config, Config.load withWorkersInWords.files (Path.ofText "c.json") = .ok config) ∧
        withWorkersInWords.run.ending ≠ .status 0 ∧ withWorkersInWords.run.ending ≠ .status 1 := by
  intro host
  have hload : (Config.load withWorkersInWords.files (Path.ofText "c.json")).isOk = true := by
    decide +kernel
  refine ⟨by decide +kernel, ?_, by decide +kernel, by decide +kernel⟩
  cases hconfig : Config.load withWorkersInWords.files (Path.ofText "c.json") with
  | ok config => exact ⟨config, rfl⟩
  | error fault =>
    rw [hconfig] at hload
    cases hload

end Call

end DeclIndex.CommandLine
