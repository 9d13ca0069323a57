import TowerOfHanoi.Transfer

/-!
# Choosy lists of moves

A listing keeps the moves it is given, in order. It may have a limit, and it may refuse moves
that leave a certain peg or go to one. Its limit comes first: a full listing does not look at the
move.
-/

namespace TowerOfHanoi

/-- What a listing accepts. -/
structure Listing where
  /-- How many moves it holds, if there is a limit. -/
  limit : Option Nat := none
  /-- The peg that no move may leave, if there is one. -/
  refusedSource : Option Peg := none
  /-- The peg that no move may go to, if there is one. -/
  refusedTarget : Option Peg := none

namespace Listing

/-- Why a listing does not keep a move. -/
inductive Refusal
  /-- It holds as many moves as it can. -/
  | full
  /-- It does not accept one of the pegs. -/
  | unwanted
  deriving DecidableEq

/-- Whether there is no room beside the moves already kept. -/
def isFull (listing : Listing) (kept : Nat) : Bool :=
  listing.limit.any (· ≤ kept)

/-- Whether a move has a peg that is not accepted. -/
def refuses (listing : Listing) (move : Move) : Bool :=
  listing.refusedSource = some move.source || listing.refusedTarget = some move.target

/-- Keeps a move behind those already kept, or tells why not. -/
def keep (listing : Listing) (move : Move) (kept : Array Move) :
    Except Refusal Unit × Array Move :=
  if listing.isFull kept.size then (.error .full, kept)
  else if listing.refuses move then (.error .unwanted, kept)
  else (.ok (), kept.push move)

/-- The sink that fills the listing. -/
def sink (listing : Listing) : Sink (StateM (Array Move)) Refusal where
  record move := listing.keep move
  observe _ := pure ()

/-- Lists the solution of a puzzle behind the moves already kept, as far as the listing accepts
them. -/
def fill (listing : Listing) (puzzle : Puzzle) (kept : Array Move) :
    Except (SolveError Refusal) Unit × Array Move :=
  (solve listing.sink puzzle).run.run kept

end Listing

end TowerOfHanoi
