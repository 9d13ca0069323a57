import TowerOfHanoi.Proofs.Counting
import TowerOfHanoi.Proofs.Json.RoundTrip
import TowerOfHanoi.Proofs.Log.Reader
import TowerOfHanoi.Solution

/-!
# The report and the log

The solution of a puzzle is given in two ways: as a log of moves, printed one by one as they are
found, and as a document with the list of all moves and their number. Both come from the steps of
the puzzle, and both can be read back. So reading the two gives the same moves, whatever the labels
are, though a log escapes none of them and a document escapes some. The number of moves that the
document tells is the number that the printer has counted and the one that is known beforehand.

## Main results

* `Solution.ofPuzzle_eq_ok`: the solution of a puzzle holds its steps.
* `report_agrees_with_log`: the document and the log of a puzzle tell the same moves.
-/

namespace TowerOfHanoi

open Json

/-! ### Solutions -/

namespace Solution

variable {puzzle : Puzzle}

theorem ofPuzzle_eq_ok (bound : puzzle.disks ≤ maxCollectedDisks) :
    ofPuzzle puzzle = .ok ⟨puzzle, puzzle.steps.length, puzzle.steps.toArray⟩ := by
  rw [ofPuzzle, moves_eq_ok bound]
  simp [Except.map, ofMoves]

theorem ofPuzzle_eq_error (excess : maxCollectedDisks < puzzle.disks) :
    ofPuzzle puzzle = .error (.tooManyDisks puzzle.disks maxCollectedDisks) := by
  rw [ofPuzzle, moves_eq_error excess]
  rfl

end Solution

/-! ### Both -/

/-- Both texts that are written for a document stand for it. -/
theorem Json.denotes_of_mem {document : Json} {text : String}
    (htext : text ∈ [document.compact, document.pretty]) : Denotes text document := by
  rcases List.mem_pair.mp htext with rfl | rfl
  · exact denotes_compact document
  · exact denotes_pretty document

/-- **The report and the log tell the same solution.** Of a puzzle with at most 20 disks there is
a solution, and on a device that never fails there is a log. Both texts of the solution stand for
one record, and are read as it: it has the number of disks and the pegs of the puzzle, and items
that are read as the moves that are read from the log, in order. The total in the record is the
number of items, of moves that the printer has counted, and of moves that was known beforehand.
Beyond 20 disks there is no solution to report. -/
theorem report_agrees_with_log (puzzle : Puzzle) :
    (puzzle.disks ≤ 20 → ∀ {δ : Type} [Archive δ] {device : δ}, Device.NeverFails device →
      ∃ solution document items printer after log lines,
        Solution.ofPuzzle puzzle = .ok solution ∧
        (∀ text ∈ [solution.toJson.compact, solution.toJson.pretty],
          Denotes text document ∧ Draft.ofText text = (draft document, .ok ())) ∧
        document = .object [("disks", .number puzzle.disks.toNat),
          ("source", .string puzzle.pegs.source.text),
          ("destination", .string puzzle.pegs.destination.text),
          ("auxiliary", .string puzzle.pegs.auxiliary.text),
          ("total", .number items.length), ("moves", .array items)] ∧
        (Printer.solve puzzle).run.run ⟨device, 0⟩ = (.ok (), printer) ∧
        printer.finish = (.ok (), after) ∧
        Archive.written after = Archive.written device ++ bytesOfText log ∧
        MoveLog.readPage log = some lines ∧
        List.Forall₂ (fun item move => Move.decode (draft item) = .ok move ∧
          ∀ text, Denotes text item → Move.ofJson text = .ok move) items
          (lines.flatMap Prod.snd) ∧
        items.length = printer.count.toNat ∧ items.length = puzzle.moveCount.toNat) ∧
    (20 < puzzle.disks → Solution.ofPuzzle puzzle = .error (.tooManyDisks puzzle.disks 20)) := by
  refine ⟨fun bound δ _ device hdevice => ?_, Solution.ofPuzzle_eq_error⟩
  have within : puzzle.disks ≤ Puzzle.maxDisks := UInt32.le_trans bound (by decide)
  obtain ⟨printer, after, hsolve, hcount, hfinish, hwritten⟩ :=
    Printer.exists_of_solve hdevice within
  have hitems : (puzzle.steps.map Move.toJson).length = puzzle.steps.length := List.length_map _
  refine ⟨_, _, puzzle.steps.map Move.toJson, printer, after, _, _,
    Solution.ofPuzzle_eq_ok bound, ?_, rfl, hsolve, hfinish, hwritten, MoveLog.readPage_page _, ?_,
    hitems.trans hcount.symm, hitems.trans (Puzzle.toNat_moveCount within).symm⟩
  · intro text htext
    have hdenotes := denotes_of_mem htext
    rw [hitems]
    exact ⟨hdenotes, hdenotes.ofText_eq⟩
  · rw [MoveLog.flatMap_numberedLines, List.forall₂_map_left_iff]
    refine List.forall₂_same.mpr fun move _ => ⟨move.decodes _ (.refl _), fun text htext => ?_⟩
    exact move.decodes.decodeText_eq (.refl _) htext

/-- Labels that a document escapes and a log does not, and one that is the punctuation of a log. -/
theorem report_agrees_with_log_escapes :
    (∃ solution items, ∃ (printer : Printer Tape) (after : Tape), ∃ log lines,
      Solution.ofPuzzle ⟨2, ⟨⟨':', by decide⟩, ⟨'\x22', by decide⟩, ⟨'\\', by decide⟩⟩⟩ =
        .ok solution ∧
      solution.toJson.compact = "\x7b\"disks\":2,\"source\":\":\",\"destination\":\"\\\"\"," ++
        "\"auxiliary\":\"\\\\\",\"total\":3,\"moves\":[\x7b\"from\":\":\",\"to\":\"\\\\\"\x7d," ++
        "\x7b\"from\":\":\",\"to\":\"\\\"\"\x7d,\x7b\"from\":\"\\\\\",\"to\":\"\\\"\"\x7d]\x7d" ∧
      (Printer.solve ⟨2, ⟨⟨':', by decide⟩, ⟨'\x22', by decide⟩, ⟨'\\', by decide⟩⟩⟩).run.run
        ⟨{ chunk := some 2 }, 0⟩ = (.ok (), printer) ∧ printer.count = 3 ∧
      printer.finish = (.ok (), after) ∧ after.stored.data.toList = bytesOfText log ∧
      MoveLog.readPage log = some lines ∧
      List.Forall₂ (fun item move => Move.decode (draft item) = .ok move) items
        (lines.flatMap Prod.snd) ∧ items.length = 3) ∧
    Solution.ofPuzzle ⟨21, .standard⟩ = .error (.tooManyDisks 21 20) := by
  have hdevice : Device.NeverFails ({ chunk := some 2 } : Tape) :=
    Tape.Unlimited.neverFails ⟨rfl, by decide, rfl⟩
  refine ⟨?_, (report_agrees_with_log ⟨21, .standard⟩).2 (by decide)⟩
  obtain ⟨solution, _, items, printer, after, log, lines, hsolution, -, -, hsolve, hfinish,
    hwritten, hread, hitems, hcount, htotal⟩ :=
    (report_agrees_with_log
      ⟨2, ⟨⟨':', by decide⟩, ⟨'\x22', by decide⟩, ⟨'\\', by decide⟩⟩⟩).1 (by decide) hdevice
  have hthree : items.length = 3 := htotal
  refine ⟨solution, items, printer, after, log, lines, hsolution, ?_, hsolve,
    UInt64.toNat_inj.mp (hcount.symm.trans hthree), hfinish, hwritten, hread,
    hitems.imp fun _ _ => And.left, hthree⟩
  cases hsolution.symm.trans (Solution.ofPuzzle_eq_ok (by decide))
  decide +kernel

end TowerOfHanoi
