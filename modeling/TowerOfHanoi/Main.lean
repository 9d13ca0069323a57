import TowerOfHanoi.CommandLine.Run

/-!
# The program

Reads the standard input when the arguments leave the puzzle to it, runs, and writes what the
run has left to the two streams. An output that takes nothing, or that is none at all, is found out
only by writing to it; the outcome is then that of a run with such an output.
-/

open TowerOfHanoi CommandLine

/-- Whether a run with these arguments reads the standard input. -/
def readsInput (arguments : List String) : Bool :=
  match readArguments arguments with
  | .ok options => options.disks.isNone
  | .error _ => false

/-- A fault of the system. -/
def systemFault : IO.Error → Fault
  | .resourceExhausted _ 28 _ => .noSpace
  | error => ⟨.other, error.toString⟩

/-- The output that a fault of the system shows. -/
def failedOutput : IO.Error → StandardOutput Tape
  | .invalidArgument _ 9 _ => .detached []
  | error => .attached { limit := some 0, fault := some (systemFault error) }

/-- Everything on a stream, as one delivery or the fault that ended it. -/
def deliveries (stream : IO.FS.Stream) : IO (List Delivery) := do
  let mut all := ByteArray.empty
  try
    repeat
      let next ← stream.read 65536
      if next.isEmpty then break
      all := all ++ next
    return [.bytes all.data.toList]
  catch error => return [.failed (systemFault error)]

/-- The program. -/
def main (arguments : List String) : IO UInt32 := do
  let input ← if readsInput arguments then deliveries (← IO.getStdin) else pure []
  let directives ← IO.getEnv "RUST_LOG"
  let mut outcome := run { arguments, input, directives }
  try
    let output ← IO.getStdout
    output.write outcome.output.stored
    output.flush
  catch error =>
    outcome := run { arguments, input, directives, output := failedOutput error }
  (← IO.getStderr).putStr outcome.errors
  return outcome.code.toUInt32
