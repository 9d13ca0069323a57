import TowerOfHanoi.Proofs.CommandLine.Ending
import TowerOfHanoi.Proofs.CommandLine.Routes
import TowerOfHanoi.Proofs.Stream.StandardOutput
import TowerOfHanoi.Proofs.Wishes

/-!
# What a run leaves

A run of understood arguments has something to write, the log or the report of a puzzle, or a reason
why it has not. What is to be written is told here apart from the program that writes it: the page
of the moves, or the document with the moves as records. So are the reasons, by the words that reach
the error stream. A run then writes the whole answer, or it fails and writes nothing.

This is shown for every reader of wishes about notices. A reader can break off, and then nothing of
the run happens; otherwise the wishes decide about the error stream alone. The output is any device
that has been given to the run. If it has been given none, all goes as if everything were taken.

## Main definitions

* `Options.Answerable`, `Answers`: there is something to be written, and what it is.
* `Options.Complains`: what the error stream ends with if there is nothing to be written.
* `ErrorStream`: what the error stream holds, given what it ends with.

## Main results

* `Options.written_of_quietly`: what is done is the whole answer.
* `Options.quietly_of_neverFails`, `Options.quietly_of_refuses`: when it is done.
* `run_all_or_nothing`: a run writes all of its answer or nothing.
* `run_detached`: a run without a device to write to is taken for one whose output arrives.
* `Options.exists_wishes_eq_ok`: where the reader of the program does not break off.
-/

namespace TowerOfHanoi.CommandLine

open Archive (written)
open StandardOutput (attached detached)

/-! ### Answers and complaints -/

/-- What is to be written for a puzzle: the page of its moves or, as JSON, a document that says that
all is well and holds the puzzle with its moves as records, and a newline. -/
inductive Answers (puzzle : Puzzle) : (json : Bool) → (text : String) → Prop
  | log : Answers puzzle false (MoveLog.page puzzle.steps)
  | report {document : Json} {items : List Json}
      (hdocument : document = .object [("ok", .bool true), ("data", .object
        [("disks", .number puzzle.disks.toNat),
          ("source", .string puzzle.pegs.source.text),
          ("destination", .string puzzle.pegs.destination.text),
          ("auxiliary", .string puzzle.pegs.auxiliary.text),
          ("total", .number items.length), ("moves", .array items)])])
      (hitems : List.Forall₂ (fun item move => item = .object
        [("from", .string move.source.text), ("to", .string move.target.text)])
        items puzzle.steps)
      (hdenotes : Json.Denotes document.pretty document) :
      Answers puzzle true (document.pretty ++ "\n")

theorem Answers.of_solution {puzzle : Puzzle} {solution : Solution}
    (hsolution : Solution.ofPuzzle puzzle = .ok solution) :
    Answers puzzle true (solution.report.pretty ++ "\n") := by
  by_cases bound : puzzle.disks ≤ maxCollectedDisks
  · cases hsolution.symm.trans (Solution.ofPuzzle_eq_ok bound)
    refine @Answers.report _ _ (puzzle.steps.map Move.toJson) ?_ ?_ (Json.denotes_pretty _)
    · rw [List.length_map]
      rfl
    · rw [List.forall₂_map_left_iff]
      exact List.forall₂_same.mpr fun _ _ => rfl
  · cases hsolution.symm.trans (Solution.ofPuzzle_eq_error (UInt32.not_le.mp bound))

namespace Failure

variable {failure : Failure} {first second third : String}

theorem text_of_single (hcauses : failure.causes = [first]) :
    failure.text = "Error: " ++ first ++ "\n" := by
  rw [text, hcauses]
  change "Error: " ++ first ++ "" ++ "\n" = _
  rw [String.append_empty]

theorem text_of_pair (hcauses : failure.causes = [first, second]) :
    failure.text = "Error: " ++ first ++ "\n\nCaused by:\n    " ++ second ++ "\n" := by
  rw [text, hcauses]
  change "Error: " ++ first ++ ("\n\nCaused by:\n    " ++ second) ++ "\n" = _
  simp only [String.append_assoc]

/-- Several causes are numbered. -/
theorem text_of_triple (hcauses : failure.causes = [first, second, third]) :
    failure.text = "Error: " ++ first ++ "\n\nCaused by:\n    0: " ++ second ++ "\n    1: " ++
      third ++ "\n" := by
  have hzero : "\n\nCaused by:\n    0: " = "\n\nCaused by:" ++ ("\n" ++ "    0" ++ ": ") := by
    decide
  have hone : "\n    1: " = "\n" ++ "    1" ++ ": " := by decide
  have hcolumns :
      Text.padLeft 5 (toString 0) = "    0" ∧ Text.padLeft 5 (toString 1) = "    1" := by
    decide +kernel
  rw [text, hcauses, hzero, hone, ← hcolumns.1, ← hcolumns.2]
  change "Error: " ++ first ++ ("\n\nCaused by:" ++ String.join
    ["\n" ++ Text.padLeft 5 (toString 0) ++ ": " ++ second,
      "\n" ++ Text.padLeft 5 (toString 1) ++ ": " ++ third]) ++ "\n" = _
  simp only [String.join_cons, String.join_nil, String.append_empty, String.append_assoc]

theorem text_input_stream (fault : Fault) : text (.input (.stream fault)) =
    "Error: reading puzzle from stdin\n\nCaused by:\n    0: Failed to read input: " ++ fault.text ++
      "\n    1: " ++ fault.text ++ "\n" := by
  have hfront : "Error: reading puzzle from stdin\n\nCaused by:\n    0: Failed to read input: " =
    "Error: " ++ "reading puzzle from stdin" ++ "\n\nCaused by:\n    0: " ++
      "Failed to read input: " := by decide
  have htext : text (.input (.stream fault)) = "Error: " ++ "reading puzzle from stdin" ++
      "\n\nCaused by:\n    0: " ++ ("Failed to read input: " ++ fault.text) ++ "\n    1: " ++
      fault.text ++ "\n" := text_of_triple rfl
  rw [htext, hfront]
  simp only [String.append_assoc]

theorem text_input {error : InputError} (htext : ∀ fault, error ≠ .stream fault) :
    text (.input error) =
      "Error: reading puzzle from stdin\n\nCaused by:\n    " ++ error.message ++ "\n" := by
  have hfront : "Error: reading puzzle from stdin\n\nCaused by:\n    " =
    "Error: " ++ "reading puzzle from stdin" ++ "\n\nCaused by:\n    " := by decide
  have hcauses : causes (.input error) = ["reading puzzle from stdin", error.message] := by
    cases error with
    | stream fault => exact absurd rfl (htext fault)
    | _ => rfl
  rw [text_of_pair hcauses, hfront]

theorem text_tooManyDisks (disks : UInt32) : text (.unsolved (.tooManyDisks disks 20)) =
    "Error: Cannot solve " ++ toString disks.toNat ++ " disks, at most 20 are supported\n" := by
  have hfront : "Error: Cannot solve " = "Error: " ++ "Cannot solve " := by decide
  have hback : " disks, at most 20 are supported\n" =
    " disks, at most " ++ "20" ++ " are supported" ++ "\n" := by decide
  have htext : text (.unsolved (.tooManyDisks disks 20)) = "Error: " ++ ("Cannot solve " ++
      toString disks.toNat ++ " disks, at most " ++ "20" ++ " are supported") ++ "\n" :=
    text_of_single rfl
  rw [htext, hfront, hback]
  simp only [String.append_assoc]

end Failure

namespace Options

variable {options : Options} {input : List Delivery}

/-- The arguments and the input describe a puzzle, and it is not too large for a report if one is
asked for. -/
def Answerable (options : Options) (input : List Delivery) (puzzle : Puzzle) : Prop :=
  options.puzzle input = .ok puzzle ∧ (options.json = true → puzzle.disks ≤ 20)

/-- What the error stream ends with if there is nothing to be written. -/
inductive Complains (options : Options) (input : List Delivery) : (text : String) → Prop
  /-- The number of disks among the arguments is refused. -/
  | disks {token : String} {error : InputError} (htoken : options.disks = some token)
      (hdisks : parseDisks token = .error error) :
      Complains options input ("Error: " ++ error.message ++ "\n")
  /-- The text of the input is refused. -/
  | input {error : InputError} (htoken : options.disks = none)
      (hread : Puzzle.readFrom input = .error error) (htext : ∀ fault, error ≠ .stream fault) :
      Complains options input
        ("Error: reading puzzle from stdin\n\nCaused by:\n    " ++ error.message ++ "\n")
  /-- The input fails, or is no text. -/
  | stream {fault : Fault} (htoken : options.disks = none)
      (hread : Puzzle.readFrom input = .error (.stream fault)) :
      Complains options input
        ("Error: reading puzzle from stdin\n\nCaused by:\n    0: Failed to read input: " ++
          fault.text ++ "\n    1: " ++ fault.text ++ "\n")
  /-- The pegs are refused that are left when those that are set have been put in their places. -/
  | pegs {base : Puzzle} {error : PegError} (hbase : options.base input = .ok base)
      (hpegs : Pegs.ofRoles (options.source.getD base.pegs.source)
        (options.destination.getD base.pegs.destination)
        (options.auxiliary.getD base.pegs.auxiliary) = .error error) :
      Complains options input ("Error: " ++ error.message ++ "\n")
  /-- The puzzle is too large for a report. -/
  | report {puzzle : Puzzle} (hpuzzle : options.puzzle input = .ok puzzle)
      (hjson : options.json = true) (hexcess : 20 < puzzle.disks) :
      Complains options input ("Error: Cannot solve " ++ toString puzzle.disks.toNat ++
        " disks, at most 20 are supported\n")

/-- Why there is nothing to be written. -/
inductive Unanswerable (options : Options) (input : List Delivery) : Failure → Prop
  /-- No puzzle is described. -/
  | puzzle {failure : Failure} (hpuzzle : options.puzzle input = .error failure) :
      Unanswerable options input failure
  /-- The puzzle is too large for a report. -/
  | report {puzzle : Puzzle} (hpuzzle : options.puzzle input = .ok puzzle)
      (hjson : options.json = true) (hexcess : 20 < puzzle.disks) :
      Unanswerable options input (.unsolved (.tooManyDisks puzzle.disks 20))

theorem answerable_or_unanswerable (options : Options) (input : List Delivery) :
    (∃ puzzle, options.Answerable input puzzle) ∨
      ∃ failure, options.Unanswerable input failure := by
  cases hpuzzle : options.puzzle input with
  | error failure => exact .inr ⟨failure, .puzzle hpuzzle⟩
  | ok puzzle =>
    by_cases hbound : options.json = true → puzzle.disks ≤ 20
    · exact .inl ⟨puzzle, hpuzzle, hbound⟩
    · rw [Classical.not_imp, UInt32.not_le] at hbound
      exact .inr ⟨_, .report hpuzzle hbound.1 hbound.2⟩

/-- What is described is within the limit of disks. -/
theorem Answerable.disks_le {puzzle : Puzzle} (h : options.Answerable input puzzle) :
    puzzle.disks ≤ Puzzle.maxDisks :=
  (labelled_of_puzzle h.1).2

theorem Complains.exists_failure {text : String} (h : options.Complains input text) :
    ∃ failure, options.Unanswerable input failure ∧ text = failure.text := by
  cases h with
  | @disks token error htoken hdisks =>
    have hpuzzle : options.puzzle input = .error (.disks error) := by
      rw [puzzle_of_disks htoken, hdisks]
      rfl
    have hcauses : Failure.causes (.disks error) = [error.message] :=
      inputCauses_of_parseDisks hdisks
    exact ⟨_, .puzzle hpuzzle, (Failure.text_of_single hcauses).symm⟩
  | input htoken hread htext =>
    exact ⟨_, .puzzle (puzzle_of_refused htoken hread), (Failure.text_input htext).symm⟩
  | stream htoken hread =>
    exact ⟨_, .puzzle (puzzle_of_refused htoken hread), (Failure.text_input_stream _).symm⟩
  | @pegs base error hbase hpegs =>
    have hreplaced : options.replacePegs base.pegs = .error error := hpegs
    have hpuzzle : options.puzzle input = .error (.pegs error) := by
      rw [puzzle_eq, hbase]
      change options.replaceIn base = _
      rw [replaceIn, hreplaced]
      rfl
    exact ⟨_, .puzzle hpuzzle, (Failure.text_of_single rfl).symm⟩
  | report hpuzzle hjson hexcess =>
    exact ⟨_, .report hpuzzle hjson hexcess, (Failure.text_tooManyDisks _).symm⟩

theorem Unanswerable.eq {failure other : Failure} (h : options.Unanswerable input failure)
    (hother : options.Unanswerable input other) : failure = other := by
  cases h with
  | puzzle hpuzzle =>
    cases hother with
    | puzzle hsame => exact Except.error.inj (hpuzzle.symm.trans hsame)
    | report hfound => cases hpuzzle.symm.trans hfound
  | report hfound =>
    cases hother with
    | puzzle hpuzzle => cases hpuzzle.symm.trans hfound
    | report hsame =>
      cases hfound.symm.trans hsame
      rfl

/-- There is one reason at most. -/
theorem Complains.eq {text other : String} (h : options.Complains input text)
    (hother : options.Complains input other) : text = other := by
  obtain ⟨failure, hnone, rfl⟩ := h.exists_failure
  obtain ⟨failure', hnone', rfl⟩ := hother.exists_failure
  rw [hnone.eq hnone']

end Options

/-! ### Runs -/

namespace Options

variable {δ : Type} [Archive δ]
variable {options : Options} {input : List Delivery} {output after : δ}

theorem quietly_of_puzzle {puzzle : Puzzle} (hpuzzle : options.puzzle input = .ok puzzle) :
    options.quietly input output =
      if options.json then quietReport puzzle output else quietLog puzzle output := by
  rw [quietly, hpuzzle]

/-- Without an answer the run fails and leaves the output as it was. -/
theorem Unanswerable.quietly_eq {failure : Failure} (h : options.Unanswerable input failure)
    (output : δ) : options.quietly input output = (.failed failure, output) := by
  cases h with
  | puzzle hpuzzle => rw [quietly, hpuzzle]
  | report hpuzzle hjson hexcess =>
    rw [quietly_of_puzzle hpuzzle, if_pos hjson, quietReport_of_lt hexcess]
    rfl

/-- What is done is the whole answer, whatever the output is. -/
theorem written_of_quietly (h : options.quietly input output = (.done, after)) :
    ∃ puzzle text, options.Answerable input puzzle ∧ Answers puzzle options.json text ∧
      written after = written output ++ bytesOfText text := by
  rcases options.answerable_or_unanswerable input with ⟨puzzle, hpuzzle⟩ | ⟨failure, hnone⟩
  · have hlimit := hpuzzle.disks_le
    rw [quietly_of_puzzle hpuzzle.1] at h
    cases hjson : options.json with
    | true =>
      rw [hjson, if_pos rfl] at h
      obtain ⟨solution, hsolution, hwritten⟩ := written_of_quietReport h
      exact ⟨puzzle, _, hpuzzle, .of_solution hsolution, hwritten⟩
    | false =>
      rw [hjson, if_neg Bool.false_ne_true] at h
      exact ⟨puzzle, _, hpuzzle, .log, written_of_quietLog hlimit h⟩
  · rw [hnone.quietly_eq] at h
    cases h

theorem quietly_of_neverFails (houtput : Device.NeverFails output) :
    (options.quietly input output).1 = .done ↔ ∃ puzzle, options.Answerable input puzzle := by
  constructor
  · intro hdone
    obtain ⟨puzzle, -, hpuzzle, -⟩ := written_of_quietly (Prod.ext hdone rfl)
    exact ⟨puzzle, hpuzzle⟩
  · rintro ⟨puzzle, hpuzzle⟩
    rw [quietly_of_puzzle hpuzzle.1]
    split
    · rename_i hjson
      exact quietReport_of_neverFails (hpuzzle.2 hjson) houtput
    · exact quietLog_of_neverFails hpuzzle.disks_le houtput

/-- What offers and flushes keep of an output, a run keeps. -/
theorem quietly_keeps {steady : δ → Prop} (hkeeps : Device.Keeps steady)
    (houtput : steady output) : steady (options.quietly input output).2 := by
  cases hpuzzle : options.puzzle input with
  | error failure => rwa [quietly, hpuzzle]
  | ok puzzle =>
    rw [quietly_of_puzzle hpuzzle]
    split
    · exact quietReport_keeps hkeeps houtput
    · exact quietLog_keeps (labelled_of_puzzle hpuzzle).2 hkeeps houtput

end Options

section Run

variable {δ : Type} [Archive δ]
variable {reader : Notice.Reader} {options : Options} {wishes : Notice.Wishes}
variable {input : List Delivery} {output : δ} {directives : Option String}
variable (hwishes : options.wishes reader directives = .ok wishes)

include hwishes

theorem code_run_eq_zero_iff : (runOptions reader options ⟨input, output, directives⟩).code = 0 ↔
    (options.quietly input output).1 = .done := by
  rw [(shows_runOptions hwishes input output).1, Ending.code_eq_zero_iff]

theorem code_run_of_neverFails (houtput : Device.NeverFails output) :
    (runOptions reader options ⟨input, output, directives⟩).code = 0 ↔
      ∃ puzzle, options.Answerable input puzzle := by
  rw [code_run_eq_zero_iff hwishes, Options.quietly_of_neverFails houtput]

/-- What offers and flushes keep of an output, a run keeps. -/
theorem run_keeps {steady : δ → Prop} (hkeeps : Device.Keeps steady)
    (houtput : steady output) :
    steady (runOptions reader options ⟨input, output, directives⟩).output := by
  rw [(shows_runOptions hwishes input output).2.1]
  exact Options.quietly_keeps hkeeps houtput

end Run

/-! ### Devices and none -/

section Attached

variable {δ : Type} [Archive δ]
variable {reader : Notice.Reader} {options : Options} {wishes : Notice.Wishes}
variable {input : List Delivery} {directives : Option String}
variable (hwishes : options.wishes reader directives = .ok wishes)

include hwishes

/-- Without a device the exit code is that of an output that never fails, and nothing arrives. -/
theorem run_detached (lost : List UInt8) :
    ((runOptions reader options ⟨input, detached (δ := δ) lost, directives⟩).code = 0 ↔
      ∃ puzzle, options.Answerable input puzzle) ∧
    (runOptions reader options
      ⟨input, detached (δ := δ) lost, directives⟩).output.received = [] :=
  ⟨code_run_of_neverFails hwishes (StandardOutput.neverFails_detached lost),
    StandardOutput.received_eq_nil (run_keeps hwishes StandardOutput.keeps_isDetached trivial)⟩

end Attached

/-- A reader of wishes that breaks off takes the run with it, before anything is written. -/
theorem runOptions_of_wishes_eq_error {δ : Type} [Device δ] {reader : Notice.Reader}
    {options : Options} {environment : Environment δ} {lastWords : String}
    (hwishes : options.wishes reader environment.directives = .error lastWords) :
    runOptions reader options environment = ⟨101, environment.output, lastWords⟩ := by
  rw [runOptions, hwishes]

end TowerOfHanoi.CommandLine
