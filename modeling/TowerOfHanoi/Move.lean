import TowerOfHanoi.Peg

/-!
# Moves

A move lifts the top disk of one peg and puts it on another. It names the two pegs and no disk:
which disk is lifted is known only where the towers stand.
-/

namespace TowerOfHanoi

/-- A move of the top disk of one peg to another. -/
structure Move where
  /-- The peg that the disk leaves. -/
  source : Peg
  /-- The peg that the disk goes to. -/
  target : Peg
  deriving DecidableEq

/-- A move as text: both labels with an arrow between them. -/
def Move.text (move : Move) : String :=
  move.source.text ++ "->" ++ move.target.text

end TowerOfHanoi
