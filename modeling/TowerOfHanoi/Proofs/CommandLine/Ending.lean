import TowerOfHanoi.Proofs.Observation
import TowerOfHanoi.Proofs.Report

/-!
# How a run ends

A run reads a puzzle, writes its log or its report, and tells the error stream what an observer may
know. The observer comes between all of this, but it changes none of it: a run leaves what the same
run leaves that nobody observes, with notices on the error stream. Of the run that nobody observes
it is then shown what comes of its log and of its report on any output, on one that never fails and
on one that refuses every byte. A log goes through a buffer, so a part of it may be lost without a
failure while it is written; it is not lost without a failure at its end.

## Main definitions

* `Ending`, `Options.quietly`: how a run ends, and the run that nobody observes.
* `Outcome.Shows`: a run leaves what the one that nobody observes leaves.

## Main results

* `shows_runOptions`: observation changes only the error stream.
* `written_of_quietLog`, `written_of_quietReport`: what is done is complete.
* `quietLog_of_neverFails`, `quietReport_of_neverFails`: an output that never fails gets it done.
* `quietLog_done_iff`, `quietReport_ne_done`: one that refuses every byte gets the empty log only.
-/

namespace TowerOfHanoi.CommandLine

open Archive (written)

variable {δ : Type}

/-! ### Runs that nobody observes -/

/-- How a run ends. Only a report can be aborted. -/
inductive Ending
  /-- Everything has been written. -/
  | done
  /-- The run fails. -/
  | failed (failure : Failure)
  /-- The output fails in the middle of a report. -/
  | aborted (fault : Fault)

namespace Ending

/-- The exit code. -/
def code : Ending → Nat
  | done => 0
  | failed _ => 1
  | aborted _ => 101

/-- What the error stream is told at the end. -/
def text : Ending → String
  | done => ""
  | failed failure => failure.text
  | aborted fault => "failed printing to stdout: " ++ fault.text ++ "\n"

theorem code_eq_zero_iff {ending : Ending} : ending.code = 0 ↔ ending = done := by
  cases ending <;> simp [code]

end Ending

/-- A run leaves what it would leave unobserved. The error stream has what was on it, then what
comes of notices, and the text of the ending last. -/
def Outcome.Shows (admits : Notice → Bool) (errors : String) (outcome : Outcome δ)
    (answer : Ending × δ) : Prop :=
  outcome.code = answer.1.code ∧ outcome.output = answer.2 ∧
    ∃ notices, outcome.errors = afterNotices (addNotice admits) errors notices ++ answer.1.text

variable {admits : Notice → Bool} {errors : String} {outcome : Outcome δ} {answer : Ending × δ}

theorem Outcome.Shows.after_notices (before : List Notice)
    (hshows : outcome.Shows admits (afterNotices (addNotice admits) errors before) answer) :
    outcome.Shows admits errors answer := by
  obtain ⟨hcode, houtput, notices, herrors⟩ := hshows
  exact ⟨hcode, houtput, before ++ notices, by rw [herrors, afterNotices_append]⟩

section Output

variable [Device δ]

/-- A new printer that writes to the output through a buffer. -/
def opened (output : δ) : Printer (Buffered δ) :=
  ⟨{ device := output }, 0⟩

/-- Writes the log of the moves. -/
def quietLog (puzzle : Puzzle) (output : δ) : Ending × δ :=
  match (Printer.solve puzzle).run.run (opened output) with
  | (.error error, printer) => (.failed (.unsolved error), printer.device.device)
  | (.ok (), printer) =>
    match printer.finish with
    | (.error fault, buffer) => (.failed (.log fault), buffer.device)
    | (.ok (), buffer) => (.done, buffer.device)

/-- Writes the report of the solution. -/
def quietReport (puzzle : Puzzle) (output : δ) : Ending × δ :=
  match Solution.ofPuzzle puzzle with
  | .error error => (.failed (.unsolved (uncollected error)), output)
  | .ok solution =>
    match sendTexts [solution.report.pretty, "\n"] output with
    | (.ok (), output) => (.done, output)
    | (.error fault, output) => (.aborted fault, output)

/-- Does what the options ask for. -/
def Options.quietly (options : Options) (input : List Delivery) (output : δ) : Ending × δ :=
  match options.puzzle input with
  | .error failure => (.failed failure, output)
  | .ok puzzle => if options.json then quietReport puzzle output else quietLog puzzle output

theorem shows_writeLog (admits : Notice → Bool) (puzzle : Puzzle) (output : δ) (errors : String) :
    (writeLog admits puzzle output errors).Shows admits errors (quietLog puzzle output) := by
  obtain ⟨notices, hrun⟩ :=
    Printer.run_solve_sinkNoting (addNotice admits) errors puzzle (opened output)
  unfold writeLog quietLog
  simp only [opened] at hrun ⊢
  simp only [hrun]
  rcases (Printer.solve puzzle).run.run (⟨{ device := output }, 0⟩ : Printer (Buffered δ)) with
    ⟨error | _, printer⟩
  · exact ⟨rfl, rfl, notices, rfl⟩
  · simp only
    rcases printer.finish with ⟨fault | _, buffer⟩
    · exact ⟨rfl, rfl, notices, rfl⟩
    · refine ⟨rfl, rfl, notices ++ [.finished printer.count], ?_⟩
      rw [afterNotices_append]
      exact String.append_empty.symm

theorem shows_writeReport (admits : Notice → Bool) (puzzle : Puzzle) (output : δ)
    (errors : String) :
    (writeReport admits puzzle output errors).Shows admits errors (quietReport puzzle output) := by
  obtain ⟨notices, hrun⟩ := Solution.run_ofPuzzleNoting (addNotice admits) errors puzzle
  unfold writeReport quietReport
  simp only [hrun]
  rcases Solution.ofPuzzle puzzle with error | solution
  · exact ⟨rfl, rfl, notices, rfl⟩
  · simp only
    rcases sendTexts [solution.report.pretty, "\n"] output with ⟨fault | _, after⟩
    · refine ⟨rfl, rfl, notices, ?_⟩
      change _ = _ ++ ("failed printing to stdout: " ++ fault.text ++ "\n")
      rw [← String.append_assoc, ← String.append_assoc]
    · exact ⟨rfl, rfl, notices, String.append_empty.symm⟩

/-- **Observation changes nothing of a run** but the error stream. -/
theorem shows_runOptions {reader : Notice.Reader} {options : Options} {directives : Option String}
    {wishes : Notice.Wishes} (hwishes : options.wishes reader directives = .ok wishes)
    (input : List Delivery) (output : δ) :
    (runOptions reader options ⟨input, output, directives⟩).Shows wishes.admits wishes.told
      (options.quietly input output) := by
  obtain ⟨told, admits⟩ := wishes
  obtain ⟨notices, hrun⟩ := options.run_puzzleNoting (addNotice admits) told input
  unfold runOptions Options.quietly
  simp only [hwishes, hrun]
  rcases options.puzzle input with failure | puzzle
  · exact ⟨rfl, rfl, notices, rfl⟩
  · refine Outcome.Shows.after_notices (notices ++ [.starting puzzle]) ?_
    rw [afterNotices_append]
    simp only
    split
    · exact shows_writeReport admits puzzle output _
    · exact shows_writeLog admits puzzle output _

end Output

/-! ### Logs -/

section Log

variable [Archive δ] {puzzle : Puzzle} {output after : δ}

/-- A log is written by feeding the steps of the puzzle to a printer. -/
theorem quietLog_eq (bound : puzzle.disks ≤ Puzzle.maxDisks) (output : δ) :
    quietLog puzzle output =
      match feed Printer.print puzzle.steps (opened output) with
      | (.error fault, printer) => (.failed (.unsolved (.sink fault)), printer.device.device)
      | (.ok (), printer) =>
        match printer.finish with
        | (.error fault, buffer) => (.failed (.log fault), buffer.device)
        | (.ok (), buffer) => (.done, buffer.device) := by
  rw [quietLog, Printer.run_solve bound]
  rcases feed Printer.print puzzle.steps (opened output) with ⟨fault | _, printer⟩ <;> rfl

/-- A log that is done is complete, whatever the output is. -/
theorem written_of_quietLog (bound : puzzle.disks ≤ Puzzle.maxDisks)
    (h : quietLog puzzle output = (.done, after)) :
    written after = written output ++ bytesOfText (MoveLog.page puzzle.steps) := by
  rw [quietLog_eq bound] at h
  split at h
  · cases h
  · rename_i printer hfeed
    split at h
    · cases h
    · rename_i buffer hfinish
      cases h
      have hempty : (opened output).device.held = written output := List.append_nil _
      have hholds := (Printer.holds_nil (opened output).device).feed
        (Puzzle.length_steps_lt bound) hfeed
      rw [hholds.written_finish hfinish, ← hempty]
      rfl

theorem quietLog_of_neverFails (bound : puzzle.disks ≤ Puzzle.maxDisks)
    (houtput : Device.NeverFails output) : (quietLog puzzle output).1 = .done := by
  have hbuffer : Device.NeverFails (opened output).device := Buffered.neverFails houtput
  obtain ⟨printer, hfeed, hdevice⟩ := hbuffer.feed puzzle.steps
  obtain ⟨ended, hfinish⟩ := hdevice.finish
  rw [quietLog_eq bound, hfeed]
  simp only [hfinish]

/-- What offers and flushes keep of an output, a log keeps. -/
theorem quietLog_keeps (bound : puzzle.disks ≤ Puzzle.maxDisks) {steady : δ → Prop}
    (hkeeps : Device.Keeps steady) (houtput : steady output) :
    steady (quietLog puzzle output).2 := by
  have hopened : steady (opened output).device.device := houtput
  have hfed := hkeeps.buffered.feed hopened puzzle.steps
  rw [quietLog_eq bound]
  generalize feed Printer.print puzzle.steps (opened output) = answer at hfed ⊢
  rcases answer with ⟨fault | _, printer⟩
  · exact hfed
  · have hfinished := hkeeps.buffered.finish hfed
    simp only
    generalize printer.finish = answer at hfinished ⊢
    rcases answer with ⟨fault | _, buffer⟩ <;> exact hfinished

end Log

/-! ### Reports -/

section Report

variable [Archive δ] {puzzle : Puzzle} {output after : δ}

/-- A report that is done is complete, whatever the output is. -/
theorem written_of_quietReport (h : quietReport puzzle output = (.done, after)) :
    ∃ solution, Solution.ofPuzzle puzzle = .ok solution ∧
      written after = written output ++ bytesOfText (solution.report.pretty ++ "\n") := by
  unfold quietReport at h
  split at h
  · cases h
  · rename_i solution hsolution
    split at h
    · rename_i sent hsend
      cases h
      have hwritten := content_of_sendTexts hsend
      rw [String.join_cons, String.join_cons, String.join_nil, String.append_empty] at hwritten
      exact ⟨solution, hsolution, hwritten⟩
    · cases h

theorem quietReport_of_neverFails (bound : puzzle.disks ≤ maxCollectedDisks)
    (houtput : Device.NeverFails output) : (quietReport puzzle output).1 = .done := by
  rw [quietReport, Solution.ofPuzzle_eq_ok bound]
  simp only
  obtain ⟨after, hsent, -⟩ := houtput.takes_texts
    [(Solution.mk puzzle puzzle.steps.length puzzle.steps.toArray).report.pretty, "\n"]
  rw [hsent]

theorem quietReport_of_lt (excess : maxCollectedDisks < puzzle.disks) (output : δ) :
    quietReport puzzle output =
      (.failed (.unsolved (.tooManyDisks puzzle.disks maxCollectedDisks)), output) := by
  rw [quietReport, Solution.ofPuzzle_eq_error excess]
  rfl

/-- What offers and flushes keep of an output, a report keeps. -/
theorem quietReport_keeps {steady : δ → Prop} (hkeeps : Device.Keeps steady)
    (houtput : steady output) : steady (quietReport puzzle output).2 := by
  unfold quietReport
  split
  · exact houtput
  · rename_i solution _
    have hsent := hkeeps.sendTexts houtput [solution.report.pretty, "\n"]
    generalize sendTexts [solution.report.pretty, "\n"] output = answer at hsent ⊢
    rcases answer with ⟨fault | _, sent⟩ <;> exact hsent

end Report

end TowerOfHanoi.CommandLine
