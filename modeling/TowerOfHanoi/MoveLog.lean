import TowerOfHanoi.Transfer
import TowerOfHanoi.Stream.Device

/-!
# The log of the moves

The moves are written as text, eight on a line. A line starts with the number of its first move,
counted from zero and aligned to the right, and a finished log ends with a newline; a log
without moves has no text at all.

## Main definitions

* `MoveLog.entry`: the texts written for one move, which depend on how many went before.
* `Printer`: a device together with the number of moves written to it.
* `Printer.print`, `Printer.finish`: one more move, and the end of the log.
* `Printer.sink`, `Printer.solve`: the log of a puzzle's solution.
-/

namespace TowerOfHanoi

namespace MoveLog

/-- How many moves stand on a line. -/
def movesPerLine : UInt64 := 8

/-- The least number of columns for the number of a move. -/
def indexWidth : Nat := 5

/-- What stands in front of a move: the start of a new line, or a space. The number of a line is
aligned to the right by single spaces. -/
def opening (count : UInt64) : List String :=
  if count % movesPerLine = 0 then
    let number := toString count.toNat
    "\n" :: List.replicate (indexWidth - number.length) " " ++ [number, ": "]
  else [" "]

/-- The texts that are written for the move with the given number, piece by piece. -/
def entry (count : UInt64) (move : Move) : List String :=
  opening count ++ [move.source.text, "->", move.target.text]

end MoveLog

/-- A log in the making. -/
structure Printer (δ : Type) where
  /-- Where it is written. -/
  device : δ
  /-- How many moves have been written. -/
  count : UInt64 := 0

namespace Printer

variable {δ : Type} [Device δ]

/-- Writes one more move. It counts only when all of it has been written. -/
def print (move : Move) : ExceptT Fault (StateM (Printer δ)) Unit := fun printer =>
  match printer with
  | ⟨device, count⟩ =>
    match sendTexts (MoveLog.entry count move) device with
    | (.ok (), device) => (.ok (), ⟨device, count + 1⟩)
    | (.error fault, device) => (.error fault, ⟨device, count⟩)

/-- Ends the log and flushes the device. The printer is used up either way. -/
def finish (printer : Printer δ) : Except Fault Unit × δ :=
  match sendTexts (if printer.count = 0 then [] else ["\n"]) printer.device with
  | (.ok (), device) => Device.flush device
  | (.error fault, device) => (.error fault, device)

/-- The sink that writes every move to the log. -/
def sink : Sink (StateM (Printer δ)) Fault where
  record := print
  observe _ := pure ()

/-- The sink that writes every move to the log and keeps an observer with a state of its own up to
date. -/
def sinkNoting {ω : Type} (observe : Notice → ω → ω) :
    Sink (StateM (Printer δ × ω)) Fault where
  record move := fun (printer, seen) =>
    let (result, printer) := print move printer
    (result, printer, seen)
  observe notice := modify fun (printer, seen) => (printer, observe notice seen)

/-- Writes the solution of a puzzle to the log. -/
def solve (puzzle : Puzzle) : ExceptT (SolveError Fault) (StateM (Printer δ)) Unit :=
  TowerOfHanoi.solve sink puzzle

end Printer

end TowerOfHanoi
