import TowerOfHanoi.Puzzle

/-!
# Notices

While it works, the program tells an observer what it is about to do or has done. A notice has a
level of detail, names the part of the program it comes from, and carries the values that
matter. Whether anyone listens changes nothing else.

## Main definitions

* `Level`: how much detail a notice belongs to.
* `Notice`: what there is to tell, with `Notice.level`, `Notice.origin`, `Notice.message` and
  `Notice.fields`, and `Notice.carries` for the names of its values.
* `Notice.line`: a notice as one line of a log.
* `Notice.Wishes`, `Notice.Reader`: which notices are let through, and how this is read.
-/

namespace TowerOfHanoi

/-- How much detail a notice belongs to, from the most urgent to the most detailed. -/
inductive Level
  | error
  | warn
  | info
  | debug
  | trace
  deriving DecidableEq

namespace Level

/-- Higher ranks are more detailed. -/
def rank : Level → Nat
  | error => 1
  | warn => 2
  | info => 3
  | debug => 4
  | trace => 5

/-- The name of a level in a log. -/
def name : Level → String
  | error => "ERROR"
  | warn => "WARN"
  | info => "INFO"
  | debug => "DEBUG"
  | trace => "TRACE"

/-- Whether an observer that takes notices up to `upTo` takes one of this level. -/
def within (level upTo : Level) : Bool :=
  level.rank ≤ upTo.rank

end Level

/-- What the program tells an observer. -/
inductive Notice
  /-- A puzzle has been read from text. -/
  | parsed (puzzle : Puzzle)
  /-- The puzzle to be solved is known. -/
  | starting (puzzle : Puzzle)
  /-- The limits have been checked and solving begins. -/
  | solving (puzzle : Puzzle)
  /-- A tower of so many disks is about to be moved from one peg to another. -/
  | transfer (disks : Nat) (source target : Peg)
  /-- The whole log has been written. -/
  | finished (moves : UInt64)
  deriving DecidableEq

namespace Notice

/-- The level of a notice. -/
def level : Notice → Level
  | parsed _ => .debug
  | starting _ => .info
  | solving _ => .debug
  | transfer .. => .trace
  | finished _ => .info

/-- The part of the program that a notice comes from. -/
def origin : Notice → String
  | parsed _ => "hanoi::input"
  | starting _ => "hanoi"
  | solving _ => "hanoi::solver"
  | transfer .. => "hanoi::solver"
  | finished _ => "hanoi"

/-- What a notice says, its values apart. -/
def message : Notice → String
  | parsed _ => "Parsed puzzle"
  | starting _ => "Starting"
  | solving _ => "Solving puzzle"
  | transfer .. => "transfer"
  | finished _ => "Done"

/-- The number of disks and the pegs of a puzzle as named values. -/
def puzzleFields (puzzle : Puzzle) : List (String × String) :=
  [("disks", toString puzzle.disks.toNat), ("source", puzzle.pegs.source.text),
    ("destination", puzzle.pegs.destination.text), ("auxiliary", puzzle.pegs.auxiliary.text)]

/-- The named values that a notice carries, in order. -/
def fields : Notice → List (String × String)
  | parsed puzzle => puzzleFields puzzle
  | starting puzzle =>
    [("disks", toString puzzle.disks.toNat), ("moves", toString puzzle.moveCount.toNat)]
  | solving puzzle => puzzleFields puzzle ++ [("moves", toString puzzle.moveCount.toNat)]
  | transfer disks source target =>
    [("disks", toString disks), ("from", source.text), ("to", target.text)]
  | finished moves => [("moves", toString moves.toNat)]

/-- Whether a notice carries a value of the given name. What it says is its value `message`. -/
def carries (notice : Notice) (name : String) : Bool :=
  name = "message" || notice.fields.any fun field => field.1 = name

/-- A notice as one line of a log: its level in five columns, where it comes from, what it says,
and its values. -/
def line (notice : Notice) : String :=
  Text.padLeft 5 notice.level.name ++ " " ++ notice.origin ++ ": " ++ notice.message ++
    String.join (notice.fields.map fun field => " " ++ field.1 ++ "=" ++ field.2) ++ "\n"

/-- What is wished to be seen. -/
structure Wishes where
  /-- What is said about wishes that are ignored. -/
  told : String
  /-- Whether a notice is let through. -/
  admits : Notice → Bool

/-- A reader of wishes, given as a text together with the level up to which notices are let through
where the text says nothing. A reader may break off, with last words. -/
def Reader : Type :=
  Level → String → Except String Wishes

end Notice

end TowerOfHanoi
