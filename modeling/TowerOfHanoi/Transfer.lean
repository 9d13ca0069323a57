import TowerOfHanoi.Move
import TowerOfHanoi.Notice

/-!
# Solving a puzzle

To move a tower, move all of it but the largest disk out of the way, move the largest disk, and
move the rest on top of it. The moves go one by one to a sink, which may fail: then nothing more
is recorded, and the failure is the result.

## Main definitions

* `Sink`: who is given the moves and the notices.
* `transfer`: moves a tower of any height.
* `solve`: moves the tower of a puzzle within the limit of disks.
* `Collected`: moves in a list with room for some of them, which grows when it is full.
* `collect`, `moves`: the list of all the moves, for puzzles small enough to be listed.
* `Puzzle.room`: how many moves that list has room for from the start.
* `SolveError`: why there is no solution, with its message.
-/

namespace TowerOfHanoi

/-- Who follows the moving of a tower, in a monad that holds its state. -/
structure Sink (m : Type → Type) (ε : Type) where
  /-- Takes the next move, or fails. -/
  record : Move → ExceptT ε m Unit
  /-- Takes a notice. -/
  observe : Notice → m Unit

/-- Why a puzzle is not solved. -/
inductive SolveError (ε : Type)
  /-- The tower is higher than can be dealt with. -/
  | tooManyDisks (disks max : UInt32)
  /-- The sink failed. -/
  | sink (cause : ε)
  deriving DecidableEq

/-- The message for a puzzle that is not solved; that of the sink is its cause. -/
def SolveError.message {ε : Type} : SolveError ε → String
  | tooManyDisks disks max =>
    "Cannot solve " ++ toString disks.toNat ++ " disks, at most " ++ toString max.toNat ++
      " are supported"
  | sink _ => "Failed to record move"

section Transfer

variable {m : Type → Type} [Monad m] {ε : Type}

/-- Moves the topmost `disks` disks of `source` to `target`, by way of `spare`. -/
def transfer (sink : Sink m ε) : (disks : Nat) → (source target spare : Peg) → ExceptT ε m Unit
  | 0, _, _, _ => pure ()
  | disks + 1, source, target, spare => do
    ExceptT.lift (sink.observe (.transfer (disks + 1) source target))
    transfer sink disks source spare target
    sink.record ⟨source, target⟩
    transfer sink disks spare target source

/-- Moves the tower of a puzzle from its source to its destination. -/
def solve (sink : Sink m ε) (puzzle : Puzzle) : ExceptT (SolveError ε) m Unit :=
  if Puzzle.maxDisks < puzzle.disks then
    throw (.tooManyDisks puzzle.disks Puzzle.maxDisks)
  else do
    ExceptT.lift (sink.observe (.solving puzzle))
    ExceptT.adapt .sink
      (transfer sink puzzle.disks.toNat puzzle.pegs.source puzzle.pegs.destination
        puzzle.pegs.auxiliary)

end Transfer

/-! ### Collecting the moves -/

/-- The most disks for which the moves are collected in a list. -/
def maxCollectedDisks : UInt32 := 20

/-- A list of moves together with the number of moves that there is room for. -/
structure Collected where
  /-- The moves, in order. -/
  moves : Array Move
  /-- How many moves fit before more room has to be found. -/
  room : Nat
  /-- The moves fit. -/
  size_le_room : moves.size ≤ room

namespace Collected

/-- No moves yet, and room for as many as are asked for. -/
def withRoom (room : Nat) : Collected :=
  ⟨.emptyWithCapacity room, room, Nat.zero_le room⟩

/-- The room that is found for a list that is full: twice as much, and never less than four. -/
def grow (room : Nat) : Nat :=
  max (2 * room) 4

/-- One more move behind the others. A list that is full grows first. -/
def push (move : Move) : Collected → Collected
  | ⟨moves, room, size_le_room⟩ =>
    if hroom : moves.size < room then ⟨moves.push move, room, by rw [Array.size_push]; omega⟩
    else ⟨moves.push move, grow room, by rw [Array.size_push, grow]; omega⟩

end Collected

section Moves

variable {m : Type → Type} [Monad m]

/-- The sink that puts every move into a container and never fails. -/
def keeper {σ : Type} (push : Move → σ → σ) (observe : Notice → m Unit) :
    Sink (StateT σ m) Empty where
  record move := ExceptT.lift (modify (push move))
  observe notice := StateT.lift (observe notice)

/-- The sink that keeps every move in an array. -/
def collector (observe : Notice → m Unit) : Sink (StateT (Array Move) m) Empty :=
  keeper (fun move kept => kept.push move) observe

/-- How many moves the list of a solution has room for from the start: all of them, as far as
sizes go. -/
def Puzzle.room (puzzle : Puzzle) : Nat :=
  min puzzle.moveCount.toNat (USize.size - 1)

/-- The list of all the moves of the solution, told to the observer as they are found. -/
def collectNoting (observe : Notice → m Unit) (puzzle : Puzzle) :
    m (Except (SolveError Empty) Collected) :=
  if maxCollectedDisks < puzzle.disks then
    return .error (.tooManyDisks puzzle.disks maxCollectedDisks)
  else do
    let (result, collected) ←
      (solve (keeper Collected.push observe) puzzle).run.run (.withRoom puzzle.room)
    return result.map fun _ => collected

/-- All the moves of the solution, in order, told to the observer as they are found. -/
def movesNoting (observe : Notice → m Unit) (puzzle : Puzzle) :
    m (Except (SolveError Empty) (Array Move)) := do
  return (← collectNoting observe puzzle).map Collected.moves

end Moves

/-- The list of all the moves of the solution. -/
def collect (puzzle : Puzzle) : Except (SolveError Empty) Collected :=
  Id.run (collectNoting (fun _ => pure ()) puzzle)

/-- All the moves of the solution, in order. -/
def moves (puzzle : Puzzle) : Except (SolveError Empty) (Array Move) :=
  Id.run (movesNoting (fun _ => pure ()) puzzle)

end TowerOfHanoi
