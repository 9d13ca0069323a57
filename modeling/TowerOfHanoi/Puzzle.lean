import TowerOfHanoi.Peg

/-!
# Puzzles

A puzzle is a number of disks and three pegs. Solving it takes `2 ^ disks - 1` moves, a number
that fits 64 bits exactly up to 64 disks; beyond that the count stays at its largest value, and
such a puzzle is not solved.
-/

namespace TowerOfHanoi

/-- A tower of disks to be moved from the source to the destination. -/
structure Puzzle where
  /-- The number of disks. -/
  disks : UInt32
  /-- The pegs by role. -/
  pegs : Pegs
  deriving DecidableEq

namespace Puzzle

/-- The most disks that a puzzle can be solved for. -/
def maxDisks : UInt32 := 64

/-- The number of moves of the solution, `2 ^ disks - 1`. It stays at the largest 64-bit value
for every number of disks from 64 on. -/
def moveCount (puzzle : Puzzle) : UInt64 :=
  if puzzle.disks < 64 then (1 <<< puzzle.disks.toUInt64) - 1 else 0xffffffffffffffff

instance : Inhabited Puzzle := ⟨⟨0, Pegs.standard⟩⟩

end Puzzle

end TowerOfHanoi
