import TowerOfHanoi.Json.Decode
import TowerOfHanoi.Transfer

/-!
# The solution as a document

A solution is the puzzle together with the list of all its moves and their number, to be written
as JSON. Only puzzles whose moves can be listed have one.
-/

namespace TowerOfHanoi

/-- A puzzle with all its moves. -/
structure Solution where
  /-- The puzzle. -/
  puzzle : Puzzle
  /-- The number of moves. -/
  total : Nat
  /-- The moves, in order. -/
  moves : Array Move

namespace Solution

/-- The solution with the moves that have been found. -/
def ofMoves (puzzle : Puzzle) (moves : Array Move) : Solution :=
  ⟨puzzle, moves.size, moves⟩

/-- Solves a puzzle, telling an observer. -/
def ofPuzzleNoting {m : Type → Type} [Monad m] (observe : Notice → m Unit) (puzzle : Puzzle) :
    m (Except (SolveError Empty) Solution) := do
  return (← movesNoting observe puzzle).map (ofMoves puzzle)

/-- Solves a puzzle. -/
def ofPuzzle (puzzle : Puzzle) : Except (SolveError Empty) Solution :=
  (TowerOfHanoi.moves puzzle).map (ofMoves puzzle)

/-- A solution is written with the number of disks, the pegs by role, and the moves. -/
def toJson (solution : Solution) : Json :=
  .object [("disks", .number solution.puzzle.disks.toNat),
    ("source", solution.puzzle.pegs.source.toJson),
    ("destination", solution.puzzle.pegs.destination.toJson),
    ("auxiliary", solution.puzzle.pegs.auxiliary.toJson),
    ("total", .number solution.total),
    ("moves", .array (solution.moves.toList.map Move.toJson))]

/-- The document that reports success. -/
def report (solution : Solution) : Json :=
  .object [("ok", .bool true), ("data", solution.toJson)]

end Solution

end TowerOfHanoi
