import TowerOfHanoi.Proofs.Log.Success

/-!
# Sessions with a printer

A printer is used by calls that bring it a move, or all the moves of a puzzle. A session makes
calls in any order on one printer, whatever comes of them. On a device that never fails, every
call succeeds, and after each of them the device holds the records of all the moves so far: the
numbers run on from call to call, and a line is not ended by the end of a call. Finishing the log
then completes the page.

## Main definitions

* `Printer.Call`, `Printer.session`: a call on a printer, and calls one after the other.
* `Printer.received`: the moves that the calls bring.
* `Printer.Wrote`: the invariant, which ties the count and the device to the moves so far.

## Main results

* `Printer.Wrote.feed`, `Printer.Wrote.session`: a list of moves and a session keep the invariant.
* `Printer.exists_of_solve`: a puzzle that is solved leaves the page of its steps.
* `session_writes_page`: a finished session has written the page of its moves.
-/

namespace TowerOfHanoi

namespace Printer

/-! ### Calls -/

/-- A call on a printer. -/
inductive Call
  /-- Prints a move. -/
  | print (move : Move)
  /-- Hands a move to the printer as to a sink. -/
  | record (move : Move)
  /-- Solves a puzzle with the printer as its sink. -/
  | solve (puzzle : Puzzle)

/-- The moves that a call brings to the printer. -/
def Call.moves : Call → List Move
  | print move => [move]
  | record move => [move]
  | solve puzzle => puzzle.steps

/-- A puzzle is accepted if it is within the limit of disks. -/
def Call.Accepted : Call → Prop
  | print _ => True
  | record _ => True
  | solve puzzle => puzzle.disks ≤ Puzzle.maxDisks

instance : (call : Call) → Decidable call.Accepted
  | .print _ => isTrue trivial
  | .record _ => isTrue trivial
  | .solve puzzle => inferInstanceAs (Decidable (puzzle.disks ≤ Puzzle.maxDisks))

/-- The moves that the calls bring to the printer, in order. -/
def received (calls : List Call) : List Move :=
  calls.flatMap Call.moves

section Calls

variable {δ : Type} [Device δ]

/-- Makes a call. A fault in printing a single move is a failure of the sink, too. -/
def Call.perform : Call → Printer δ → Except (SolveError Fault) Unit × Printer δ
  | print move => (ExceptT.adapt .sink (Printer.print move)).run.run
  | record move => (ExceptT.adapt .sink (Printer.sink.record move)).run.run
  | solve puzzle => (Printer.solve puzzle).run.run

/-- Makes the calls one after the other, whatever comes of them, and tells how each ended. -/
def session : List Call → Printer δ → List (Except (SolveError Fault) Unit) × Printer δ
  | [], printer => ([], printer)
  | call :: rest, printer =>
    let (outcome, printer) := call.perform printer
    let (outcomes, printer) := session rest printer
    (outcome :: outcomes, printer)

/-- A call that is accepted feeds its moves to the printer. -/
theorem Call.perform_eq {call : Call} (haccepted : call.Accepted) (printer : Printer δ) :
    call.perform printer =
      Prod.map (Except.mapError .sink) id (feed Printer.print call.moves printer) := by
  have hsingle : ∀ move : Move, feed Printer.print [move] printer = Printer.print move printer := by
    intro move
    rw [feed]
    split
    · rename_i after h
      exact h.symm
    · rename_i cause after h
      exact h.symm
  cases call with
  | print move =>
    rw [Call.moves, hsingle]
    rfl
  | record move =>
    rw [Call.moves, hsingle]
    rfl
  | solve puzzle => exact run_solve haccepted printer

end Calls

/-! ### The invariant -/

section Archive

open Archive (written)

variable {δ : Type} [Archive δ] {front : List UInt8} {moves : List Move} {printer : Printer δ}

/-- A printer has written the moves behind what was in front of them. -/
structure Wrote (front : List UInt8) (moves : List Move) (printer : Printer δ) : Prop where
  neverFails : Device.NeverFails printer.device
  count_eq : printer.count.toNat = moves.length
  written_eq : written printer.device = front ++ bytesOfText (MoveLog.records 0 moves)

theorem wrote_nil {device : δ} (hdevice : Device.NeverFails device) :
    Wrote (written device) [] ⟨device, 0⟩ where
  neverFails := hdevice
  count_eq := rfl
  written_eq := (List.append_nil _).symm

theorem Wrote.holds (hwrote : Wrote front moves printer) : Holds front moves printer :=
  ⟨hwrote.count_eq, hwrote.written_eq⟩

theorem Wrote.feed (hwrote : Wrote front moves printer) (more : List Move)
    (hroom : (moves ++ more).length < 2 ^ 64) :
    ∃ after, TowerOfHanoi.feed Printer.print more printer = (.ok (), after) ∧
      Wrote front (moves ++ more) after := by
  obtain ⟨after, hfeed, hafter⟩ := hwrote.neverFails.feed more
  obtain ⟨hcount, hwritten⟩ := hwrote.holds.feed hroom hfeed
  exact ⟨after, hfeed, hafter, hcount, hwritten⟩

theorem Wrote.session (hwrote : Wrote front moves printer) {calls : List Call}
    (haccepted : ∀ call ∈ calls, call.Accepted)
    (hroom : (moves ++ received calls).length < 2 ^ 64) :
    ∃ after, Printer.session calls printer = (calls.map fun _ => .ok (), after) ∧
      Wrote front (moves ++ received calls) after := by
  induction calls generalizing moves printer with
  | nil => exact ⟨printer, rfl, by rwa [received, List.flatMap_nil, List.append_nil]⟩
  | cons call rest ih =>
    rw [List.forall_mem_cons] at haccepted
    rw [received, List.flatMap_cons, ← received, ← List.append_assoc] at hroom ⊢
    obtain ⟨during, hfeed, hduring⟩ :=
      hwrote.feed call.moves (by rw [List.length_append] at hroom; omega)
    obtain ⟨after, hrest, hafter⟩ := ih hduring haccepted.2 hroom
    refine ⟨after, ?_, hafter⟩
    rw [Printer.session, Call.perform_eq haccepted.1, hfeed]
    simp only [Prod.map, id, hrest]
    rfl

/-- Ending the log completes the page. -/
theorem Wrote.finish (hwrote : Wrote front moves printer) :
    ∃ after, printer.finish = (.ok (), after) ∧
      written after = front ++ bytesOfText (MoveLog.page moves) := by
  obtain ⟨after, hfinish⟩ := hwrote.neverFails.finish
  exact ⟨after, hfinish, hwrote.holds.content_finish hfinish⟩

/-- Solving a puzzle with a new printer and ending the log leaves the page of its steps. -/
theorem exists_of_solve {device : δ} (hdevice : Device.NeverFails device) {puzzle : Puzzle}
    (bound : puzzle.disks ≤ Puzzle.maxDisks) :
    ∃ printer after, (Printer.solve puzzle).run.run ⟨device, 0⟩ = (.ok (), printer) ∧
      printer.count.toNat = puzzle.steps.length ∧ printer.finish = (.ok (), after) ∧
      written after = written device ++ bytesOfText (MoveLog.page puzzle.steps) := by
  obtain ⟨printer, hfed, hwrote⟩ :=
    (wrote_nil hdevice).feed puzzle.steps (Puzzle.length_steps_lt bound)
  obtain ⟨after, hfinish, hwritten⟩ := hwrote.finish
  have hsolve : (Printer.solve puzzle).run.run ⟨device, 0⟩ = (.ok (), printer) := by
    rw [run_solve bound, hfed]
    rfl
  exact ⟨printer, after, hsolve, hwrote.count_eq, hfinish, hwritten⟩

end Archive

end Printer

/-- **A session writes a page.** Let calls bring fewer than 2^64 moves in all to a new printer on a
device that never fails, each call within the limit of disks. Then every call succeeds, the printer
counts all the moves, and ending the log succeeds and leaves the device with the page of the moves
in UTF-8. Together the lines of the page hold the moves in order, eight on every line but the last
and between one and eight on that. -/
theorem session_writes_page {δ : Type} [Archive δ] {device : δ}
    (hdevice : Device.NeverFails device) (calls : List Printer.Call)
    (haccepted : ∀ call ∈ calls, call.Accepted)
    (hroom : (Printer.received calls).length < 2 ^ 64) :
    ∃ printer after,
      Printer.session calls ⟨device, 0⟩ = (calls.map fun _ => .ok (), printer) ∧
      printer.count.toNat = (Printer.received calls).length ∧
      printer.finish = (.ok (), after) ∧
      Archive.written after = Archive.written device ++
        bytesOfText (MoveLog.page (Printer.received calls)) ∧
      (List.range (MoveLog.lineCount (Printer.received calls))).flatMap
        (MoveLog.lineMoves (Printer.received calls)) = Printer.received calls ∧
      (∀ index, index + 1 < MoveLog.lineCount (Printer.received calls) →
        (MoveLog.lineMoves (Printer.received calls) index).length = 8) ∧
      ∀ index, index + 1 = MoveLog.lineCount (Printer.received calls) →
        1 ≤ (MoveLog.lineMoves (Printer.received calls) index).length ∧
          (MoveLog.lineMoves (Printer.received calls) index).length ≤ 8 := by
  obtain ⟨printer, hsession, hwrote⟩ := (Printer.wrote_nil hdevice).session haccepted hroom
  obtain ⟨after, hfinish, hwritten⟩ := hwrote.finish
  exact ⟨printer, after, hsession, hwrote.count_eq, hfinish, hwritten,
    MoveLog.flatMap_lineMoves _, fun _ => MoveLog.length_lineMoves_of_lt _,
    fun _ => MoveLog.length_lineMoves_of_eq _⟩

/-- Two moves and two puzzles share two lines, also on a tape that takes three bytes at a time. -/
theorem session_writes_page_twelve :
    ∃ (printer : Printer Tape) (after : Tape),
      Printer.session
          [.print ⟨Pegs.standard.source, Pegs.standard.auxiliary⟩,
            .record ⟨Pegs.standard.auxiliary, Pegs.standard.source⟩,
            .solve ⟨2, .standard⟩, .solve ⟨3, .standard⟩]
          ⟨{ chunk := some 3, hiccups := fun write => write % 2 }, 0⟩ =
        ([.ok (), .ok (), .ok (), .ok ()], printer) ∧
      printer.count.toNat = 12 ∧ printer.finish = (.ok (), after) ∧
      after.stored.data.toList = bytesOfText
        "\n    0: A->B B->A A->B A->C B->C A->C A->B C->B\n    8: A->C B->A B->C A->C\n" := by
  have hpage : MoveLog.page (Printer.received
      [.print ⟨Pegs.standard.source, Pegs.standard.auxiliary⟩,
        .record ⟨Pegs.standard.auxiliary, Pegs.standard.source⟩,
        .solve ⟨2, .standard⟩, .solve ⟨3, .standard⟩]) =
      "\n    0: A->B B->A A->B A->C B->C A->C A->B C->B\n    8: A->C B->A B->C A->C\n" := by
    decide +kernel
  have hdevice : Device.NeverFails
      ({ chunk := some 3, hiccups := fun write => write % 2 } : Tape) :=
    Tape.Unlimited.neverFails ⟨rfl, by decide, rfl⟩
  obtain ⟨printer, after, hsession, hcount, hfinish, hwritten, -⟩ :=
    session_writes_page hdevice
      [.print ⟨Pegs.standard.source, Pegs.standard.auxiliary⟩,
        .record ⟨Pegs.standard.auxiliary, Pegs.standard.source⟩,
        .solve ⟨2, .standard⟩, .solve ⟨3, .standard⟩] (by decide) (by decide)
  rw [hpage] at hwritten
  exact ⟨printer, after, hsession, hcount, hfinish, hwritten⟩

end TowerOfHanoi
