import TowerOfHanoi.CommandLine.Arguments
import TowerOfHanoi.MoveLog
import TowerOfHanoi.Notice.Filter
import TowerOfHanoi.Solution
import TowerOfHanoi.Stream.Buffered
import TowerOfHanoi.Stream.StandardOutput

/-!
# A run of the program

A run takes the arguments, the input, the output and the wishes of the environment about
notices, and leaves an exit code, the output with what has been written to it, and the text of
the error stream. It writes the log of the moves or the report of the solution, or else reports
a failure with its causes.

How the wishes are read is up to a reader, which may break off and take the run with it. Everything
behind the arguments is written for any reader and any output; the program has a reader of its own
and writes to a standard output.

## Main definitions

* `Environment`, `Invocation`, `Outcome`: what a run starts with and what it leaves.
* `Failure`: why a run fails, with `Failure.causes` from the outermost to the innermost.
* `Options.puzzle`: the puzzle that the arguments and the input describe.
* `Options.wishes`: the wishes about notices.
* `runOptions`: what is done when the arguments are understood.
* `run`: the program.
-/

namespace TowerOfHanoi.CommandLine

/-- What a run finds beside its arguments. -/
structure Environment (δ : Type) where
  /-- The answers of the standard input. -/
  input : List Delivery := []
  /-- The standard output. -/
  output : δ
  /-- The directives for notices, if there are any. -/
  directives : Option String := none

/-- What a run of the program starts with. -/
structure Invocation extends Environment (StandardOutput Tape) where
  /-- The arguments, without the name of the program. -/
  arguments : List String
  output := .attached {}

/-- What a run leaves. -/
structure Outcome (δ : Type) where
  /-- The exit code. -/
  code : Nat
  /-- The standard output. -/
  output : δ
  /-- The text of the error stream. -/
  errors : String

/-! ### Failures -/

/-- Why a run fails. -/
inductive Failure
  /-- The number of disks among the arguments is refused. -/
  | disks (error : InputError)
  /-- The input gives no puzzle. -/
  | input (error : InputError)
  /-- The pegs are refused. -/
  | pegs (error : PegError)
  /-- The puzzle is not solved. -/
  | unsolved (error : SolveError Fault)
  /-- The end of the log is lost. -/
  | log (fault : Fault)

/-- What a refused input says, and the fault behind it. -/
def inputCauses (error : InputError) : List String :=
  match error with
  | .stream fault => [error.message, fault.text]
  | _ => [error.message]

/-- What a failure says, from the outermost cause to the innermost. -/
def Failure.causes : Failure → List String
  | disks error => inputCauses error
  | input error => "reading puzzle from stdin" :: inputCauses error
  | pegs error => [error.message]
  | unsolved error =>
    match error with
    | .sink fault => [error.message, fault.text]
    | .tooManyDisks .. => [error.message]
  | log fault => ["writing move log", fault.text]

/-- The text that lists the causes behind the first one. -/
def causesText : List String → String
  | [] => ""
  | [cause] => "\n\nCaused by:\n    " ++ cause
  | causes =>
    "\n\nCaused by:" ++ String.join (causes.zipIdx.map fun (cause, position) =>
      "\n" ++ Text.padLeft 5 (toString position) ++ ": " ++ cause)

/-- The text for a failure on the error stream. -/
def Failure.text (failure : Failure) : String :=
  match failure.causes with
  | [] => "Error\n"
  | first :: causes => "Error: " ++ first ++ causesText causes ++ "\n"

/-! ### The puzzle -/

namespace Options

/-- The puzzle before the pegs are replaced: the number of disks among the arguments with the
standard pegs, or the puzzle of the input. -/
def baseNoting {m : Type → Type} [Monad m] (observe : Notice → m Unit) (options : Options)
    (input : List Delivery) : m (Except Failure Puzzle) :=
  match options.disks with
  | some token =>
    return ((parseDisks token).map fun disks => ⟨disks, Pegs.standard⟩).mapError .disks
  | none => do return (← Puzzle.readFromNoting observe input).mapError .input

/-- The pegs with those replaced that are set. -/
def replacePegs (options : Options) (pegs : Pegs) : Except PegError Pegs :=
  Pegs.ofRoles (options.source.getD pegs.source) (options.destination.getD pegs.destination)
    (options.auxiliary.getD pegs.auxiliary)

/-- The puzzle with the pegs replaced that are set. -/
def replaceIn (options : Options) (base : Puzzle) : Except Failure Puzzle :=
  ((options.replacePegs base.pegs).map fun pegs => ⟨base.disks, pegs⟩).mapError .pegs

/-- The puzzle that the arguments and the input describe, told to an observer. -/
def puzzleNoting {m : Type → Type} [Monad m] (observe : Notice → m Unit) (options : Options)
    (input : List Delivery) : m (Except Failure Puzzle) := do
  return (← options.baseNoting observe input).bind options.replaceIn

/-- The puzzle that the arguments and the input describe. -/
def puzzle (options : Options) (input : List Delivery) : Except Failure Puzzle :=
  Id.run (options.puzzleNoting (fun _ => pure ()) input)

/-- What is wished to be seen of the notices. What the arguments ask for comes before the
environment. -/
def wishes (options : Options) (reader : Notice.Reader) (directives : Option String) :
    Except String Notice.Wishes :=
  match options.verbosity with
  | 0 => reader .warn (directives.getD "")
  | 1 => reader .info ""
  | 2 => reader .debug ""
  | _ => reader .trace ""

end Options

/-! ### Behind the arguments -/

section Output

variable {δ : Type} [Device δ]

/-- Adds a notice to the text of the error stream, if it is let through. -/
def addNotice (admits : Notice → Bool) (notice : Notice) (errors : String) : String :=
  if admits notice then errors ++ notice.line else errors

/-- Ends a run with a failure. -/
def fail (failure : Failure) (output : δ) (errors : String) : Outcome δ :=
  ⟨1, output, errors ++ failure.text⟩

/-- Writes the log of the moves. -/
def writeLog (admits : Notice → Bool) (puzzle : Puzzle) (output : δ) (errors : String) :
    Outcome δ :=
  let printer : Printer (Buffered δ) := { device := { device := output } }
  match (solve (Printer.sinkNoting (addNotice admits)) puzzle).run.run (printer, errors) with
  | (.error error, printer, errors) => fail (.unsolved error) printer.device.device errors
  | (.ok (), printer, errors) =>
    let count := printer.count
    match printer.finish with
    | (.error fault, buffer) => fail (.log fault) buffer.device errors
    | (.ok (), buffer) => ⟨0, buffer.device, addNotice admits (.finished count) errors⟩

/-- A puzzle that is not solved although its moves are only collected. -/
def uncollected : SolveError Empty → SolveError Fault
  | .tooManyDisks disks max => .tooManyDisks disks max
  | .sink cause => nomatch cause

/-- Writes the report of the solution. An output that fails in the middle of it aborts the run. -/
def writeReport (admits : Notice → Bool) (puzzle : Puzzle) (output : δ) (errors : String) :
    Outcome δ :=
  let observe (notice : Notice) : StateM String Unit := modify (addNotice admits notice)
  match (Solution.ofPuzzleNoting observe puzzle).run errors with
  | (.error error, errors) => fail (.unsolved (uncollected error)) output errors
  | (.ok solution, errors) =>
    match sendTexts [solution.report.pretty, "\n"] output with
    | (.ok (), output) => ⟨0, output, errors⟩
    | (.error fault, output) =>
      ⟨101, output, errors ++ "failed printing to stdout: " ++ fault.text ++ "\n"⟩

/-- Does what the options ask for. A reader of wishes that breaks off aborts the run. -/
def runOptions (reader : Notice.Reader) (options : Options) (environment : Environment δ) :
    Outcome δ :=
  match options.wishes reader environment.directives with
  | .error lastWords => ⟨101, environment.output, lastWords⟩
  | .ok ⟨told, admits⟩ =>
    let observe (notice : Notice) : StateM String Unit := modify (addNotice admits notice)
    match (options.puzzleNoting observe environment.input).run told with
    | (.error failure, errors) => fail failure environment.output errors
    | (.ok puzzle, errors) =>
      let errors := addNotice admits (.starting puzzle) errors
      if options.json then writeReport admits puzzle environment.output errors
      else writeLog admits puzzle environment.output errors

end Output

/-! ### The program -/

/-- How the program is called. -/
def usageText : String :=
  "Usage: hanoi [OPTIONS] [DISKS]\n"

/-- The help text. -/
def helpText : String :=
  "Print the Tower of Hanoi move sequence\n\n" ++ usageText ++
  "\nArguments:\n" ++
  "  [DISKS]  Number of disks; when omitted, " ++
  "`n [source destination auxiliary]` is read from stdin\n" ++
  "\nOptions:\n" ++
  "      --from <FROM>  Source peg label\n" ++
  "      --to <TO>      Destination peg label\n" ++
  "      --via <VIA>    Auxiliary peg label\n" ++
  "      --json         Output machine-readable JSON\n" ++
  "  -v, --verbose...   Increase log verbosity (-v, -vv, -vvv)\n" ++
  "  -h, --help         Print help\n" ++
  "  -V, --version      Print version\n"

/-- The version text. -/
def versionText : String :=
  "hanoi 0.1.0\n"

/-- Ends a run with a text on the output. Whether it arrives makes no difference. -/
def answer {δ : Type} [Device δ] (text : String) (output : δ) : Outcome δ :=
  ⟨0, (sendTexts [text] output).2, ""⟩

/-- The text for refused arguments. -/
def usageErrorText (error : UsageError) : String :=
  "error: " ++ error.message ++ "\n\n" ++ usageText ++
    "\nFor more information, try '--help'.\n"

/-- Runs the program. -/
def run (invocation : Invocation) : Outcome (StandardOutput Tape) :=
  match readArguments invocation.arguments with
  | .ok options => runOptions Filter.reader options invocation.toEnvironment
  | .error .help => answer helpText invocation.output
  | .error .version => answer versionText invocation.output
  | .error (.refused error) => ⟨2, invocation.output, usageErrorText error⟩

end TowerOfHanoi.CommandLine
