import TowerOfHanoi.Proofs.Log.Faults
import TowerOfHanoi.Proofs.Stream.Room
import TowerOfHanoi.Proofs.Streaming

/-!
# A log that does not fit its tape

A tape may be full before the log of a puzzle is complete: in the middle of a number or of a label,
between two records, or just before the last newline. What is on the tape is then the front of the
complete log, as much of it as fits, and solving fails with the fault of the tape unless only the
last newline is missing. The printer counts the records that are on the tape as a whole, and ending
the log adds the newline if there is room for it and is due.

The records are followed one by one along the list of the moves, with the room that is left as
what changes. No length of the list is assumed, so the highest towers are no different.

## Main definitions

* `MoveLog.complete`: how many records end within a number of bytes.

## Main results

* `Printer.filled_feed`: feeding moves to a printer fills its tape with their records.
* `Printer.written_finish`: ending the log fills it with the newline that is due.
* `solve_fills_tape`: solving a puzzle and ending the log, on a tape with any limit.
-/

namespace TowerOfHanoi

namespace MoveLog

/-! ### Records that end in time -/

/-- How many records of the moves, numbered from the given number on, end within so many bytes. -/
def complete (room number : Nat) (moves : List Move) : Nat :=
  (List.range moves.length).countP fun index =>
    (bytesOfText (records number (moves.take (index + 1)))).length ≤ room

variable {room number : Nat} {move : Move} {rest : List Move}

theorem bytesOfText_records_cons :
    bytesOfText (records number (move :: rest)) =
      bytesOfText (record number move) ++ bytesOfText (records (number + 1) rest) := by
  rw [records, bytesOfText_append]

/-- After a record that ends in time, the others have the room that is left. -/
theorem complete_cons_of_le (hfits : (bytesOfText (record number move)).length ≤ room) :
    complete room number (move :: rest) =
      complete (room - (bytesOfText (record number move)).length) (number + 1) rest + 1 := by
  have hlater : ∀ index,
      (bytesOfText (records number ((move :: rest).take (index + 1 + 1)))).length ≤ room ↔
        (bytesOfText (records (number + 1) (rest.take (index + 1)))).length ≤
          room - (bytesOfText (record number move)).length := by
    intro index
    rw [List.take_succ_cons, bytesOfText_records_cons, List.length_append]
    omega
  have hfirst : (bytesOfText (records number ((move :: rest).take (0 + 1)))).length ≤ room := by
    rw [List.take_succ_cons, List.take_zero, bytesOfText_records_cons, List.length_append]
    exact hfits
  rw [complete, complete, List.length_cons, List.range_succ_eq_map, List.countP_cons_of_pos,
    List.countP_map]
  · simp only [Function.comp_def, Nat.succ_eq_add_one, hlater]
  · exact decide_eq_true hfirst

/-- No record ends in time if the first does not. -/
theorem complete_cons_of_lt (hlong : room < (bytesOfText (record number move)).length) :
    complete room number (move :: rest) = 0 := by
  rw [complete, List.countP_eq_zero]
  intro index _ hends
  rw [decide_eq_true_eq, List.take_succ_cons, bytesOfText_records_cons, List.length_append] at hends
  omega

/-- All records end in time if the last does. -/
theorem complete_of_le {moves : List Move}
    (hfits : (bytesOfText (records number moves)).length ≤ room) :
    complete room number moves = moves.length := by
  induction moves generalizing room number with
  | nil => rfl
  | cons move rest ih =>
    rw [bytesOfText_records_cons, List.length_append] at hfits
    rw [complete_cons_of_le (by omega), ih (by omega), List.length_cons]

end MoveLog

namespace Printer

open Archive (written)
open MoveLog (record records complete)

variable {fault : Fault} {room : Nat} {printer : Printer Tape}

/-! ### Filling a tape with records -/

theorem filled_print (htape : Tape.HasRoom fault room printer.device) (move : Move) :
    Tape.Filled fault room printer.device (bytesOfText (record printer.count.toNat move))
      (Prod.map id Printer.device (Printer.print move printer)) := by
  have hfilled := Tape.filled_sendTexts htape (MoveLog.entry printer.count move)
  rwa [← bytesOfText_join, MoveLog.join_entry, ← map_device_print] at hfilled

/-- Feeding moves to a printer leaves as much of their records on its tape as fits, and the printer
counts those that fit as a whole. -/
theorem filled_feed (htape : Tape.HasRoom fault room printer.device) (moves : List Move)
    (hcount : printer.count.toNat + moves.length < 2 ^ 64) :
    Tape.Filled fault room printer.device (bytesOfText (records printer.count.toNat moves))
        (Prod.map id Printer.device (feed Printer.print moves printer)) ∧
      (feed Printer.print moves printer).2.count.toNat =
        printer.count.toNat + complete room printer.count.toNat moves := by
  induction moves generalizing room printer with
  | nil => exact ⟨Tape.filled_nil htape, rfl⟩
  | cons move rest ih =>
    rw [MoveLog.bytesOfText_records_cons, feed]
    have hprint := filled_print htape move
    have hnumber := count_print move printer
    cases h : Printer.print move printer with
    | mk result next =>
      rw [h] at hprint hnumber
      by_cases hfits : (bytesOfText (record printer.count.toNat move)).length ≤ room
      · obtain rfl : result = .ok () := hprint.result_eq.trans (if_pos hfits)
        have hwritten : written next.device = written printer.device ++
            (bytesOfText (record printer.count.toNat move)).take room := hprint.written_eq
        have hnext : next.count.toNat = printer.count.toNat + 1 := by
          rw [show next.count = printer.count + 1 from hnumber, UInt64.toNat_add]
          rw [List.length_cons] at hcount
          exact Nat.mod_eq_of_lt (by simp only [UInt64.reduceToNat]; omega)
        have hrest := ih hprint.hasRoom (by rw [hnext]; rw [List.length_cons] at hcount; omega)
        rw [List.take_of_length_le hfits] at hwritten
        rw [hnext] at hrest
        refine ⟨hrest.1.append hfits hwritten, ?_⟩
        rw [MoveLog.complete_cons_of_le hfits]
        exact hrest.2.trans (by omega)
      · obtain rfl : result = .error fault := hprint.result_eq.trans (if_neg hfits)
        refine ⟨hprint.append_of_lt (Nat.not_le.mp hfits) _, ?_⟩
        rw [MoveLog.complete_cons_of_lt (Nat.not_le.mp hfits)]
        exact congrArg UInt64.toNat hnumber

/-- Ending the log leaves as much of the newline that is due on the tape as fits. -/
theorem written_finish (htape : Tape.HasRoom fault room printer.device) :
    written printer.finish.2 = written printer.device ++
      (bytesOfText (if printer.count = 0 then "" else "\n")).take room := by
  have hfilled := Tape.filled_sendTexts htape (if printer.count = 0 then [] else ["\n"])
  have htail : (if printer.count = 0 then [] else ["\n"]).flatMap bytesOfText =
      bytesOfText (if printer.count = 0 then "" else "\n") := by
    split
    · rfl
    · exact List.flatMap_singleton bytesOfText "\n"
  rw [htail] at hfilled
  rw [finish]
  cases h : sendTexts (if printer.count = 0 then [] else ["\n"]) printer.device with
  | mk result device =>
    rw [h] at hfilled
    cases result with
    | ok => exact (Archive.written_flush device).trans hfilled.written_eq
    | error => exact hfilled.written_eq

/-- The newline is due for any moves at all if there is room behind their records. -/
theorem newline_take {moves : List Move} (hcount : printer.count.toNat = complete room 0 moves) :
    (bytesOfText (if printer.count = 0 then "" else "\n")).take
        (room - (bytesOfText (records 0 moves)).length) =
      (bytesOfText (if moves = [] then "" else "\n")).take
        (room - (bytesOfText (records 0 moves)).length) := by
  by_cases hfits : (bytesOfText (records 0 moves)).length ≤ room
  · rw [MoveLog.complete_of_le hfits] at hcount
    have hempty : printer.count = 0 ↔ moves = [] := by
      rw [← UInt64.toNat_inj, hcount]
      exact List.length_eq_zero_iff
    simp only [hempty]
  · rw [Nat.sub_eq_zero_of_le (Nat.le_of_not_le hfits), List.take_zero, List.take_zero]

end Printer

open Archive (written)

/-- **A log fills its tape.** Let a puzzle of up to 64 disks be solved with a new printer on a tape
that has room for a number of bytes, takes any number of them at a time and is interrupted at will.
Then the tape has as many bytes of the records from the front as it has room for. Solving succeeds
exactly if all of them fit, and fails otherwise with the fault of the tape, which is that of a
device that takes nothing if it has none of its own. The printer counts the records that end within
the room. After the log has been ended, with or without success, the tape has as many bytes of the
complete page from the front as it has room for. -/
theorem solve_fills_tape (puzzle : Puzzle) (hbound : puzzle.disks ≤ 64) (tape : Tape) (room : Nat)
    (hlimit : tape.limit = some (tape.stored.size + room)) (hchunk : tape.chunk ≠ some 0) :
    ∃ outcome printer, (Printer.solve puzzle).run.run ⟨tape, 0⟩ = (outcome, printer) ∧
      written printer.device =
        written tape ++ (bytesOfText (MoveLog.records 0 puzzle.steps)).take room ∧
      (outcome = .ok () ↔ (bytesOfText (MoveLog.records 0 puzzle.steps)).length ≤ room) ∧
      (outcome ≠ .ok () → outcome = .error (.sink (tape.fault.getD .writeZero))) ∧
      printer.count.toNat = MoveLog.complete room 0 puzzle.steps ∧
      written printer.finish.2 =
        written tape ++ (bytesOfText (MoveLog.page puzzle.steps)).take room := by
  have htape : Tape.HasRoom (tape.fault.getD .writeZero) room tape := ⟨hlimit, hchunk, rfl⟩
  have hlength := Puzzle.length_steps_lt hbound
  have hsolve := solve_ofRecord Printer.print hbound (⟨tape, 0⟩ : Printer Tape)
  obtain ⟨⟨hresult, hroom, hwritten⟩, hcount⟩ :=
    @Printer.filled_feed _ room ⟨tape, 0⟩ htape puzzle.steps
      (by simp only [UInt64.toNat_zero]; omega)
  simp only [UInt64.toNat_zero, Nat.zero_add] at hresult hroom hwritten hcount
  cases hfeed : feed Printer.print puzzle.steps (⟨tape, 0⟩ : Printer Tape) with
  | mk result printer =>
    rw [hfeed] at hsolve hresult hroom hwritten hcount
    have hfinish : written printer.finish.2 = _ := Printer.written_finish hroom
    have htail := Printer.newline_take hcount
    refine ⟨Except.mapError .sink result, printer, hsolve, hwritten, ?_, ?_, hcount, ?_⟩
    · rw [show result = _ from hresult]
      split
      · rename_i hfits
        exact iff_of_true rfl hfits
      · rename_i hlong
        exact iff_of_false (fun h => nomatch h) hlong
    · rw [show result = _ from hresult]
      split
      · exact fun hfailed => absurd rfl hfailed
      · exact fun _ => rfl
    · rw [hfinish, htail, MoveLog.page_eq_records, bytesOfText_append, List.take_append,
        show written printer.device = _ from hwritten, List.append_assoc]

/-- Of the three moves of two disks, one and most of the next fit into 17 bytes, which end within
the label of the destination. The newline has no room either. -/
theorem solve_fills_tape_seventeen :
    ∃ (outcome : Except (SolveError Fault) Unit) (printer : Printer Tape),
      (Printer.solve ⟨2, ⟨⟨'A', by decide⟩, ⟨'→', by decide⟩, ⟨'B', by decide⟩⟩⟩).run.run
          ⟨{ limit := some 17, chunk := some 3, hiccups := fun write => write % 3 }, 0⟩ =
        (outcome, printer) ∧
      outcome = .error (.sink .writeZero) ∧ printer.count = 1 ∧
      printer.device.stored.data.toList = bytesOfText "\n    0: A->B A->" ++ [0xe2] ∧
      printer.finish.2.stored.data.toList = bytesOfText "\n    0: A->B A->" ++ [0xe2] := by
  obtain ⟨outcome, printer, hsolve, hwritten, hok, hfailed, hcount, hfinish⟩ :=
    solve_fills_tape ⟨2, ⟨⟨'A', by decide⟩, ⟨'→', by decide⟩, ⟨'B', by decide⟩⟩⟩ (by decide)
      { limit := some 17, chunk := some 3, hiccups := fun write => write % 3 } 17 rfl (by decide)
  have hlong : ¬ (bytesOfText (MoveLog.records 0
      (Puzzle.steps ⟨2, ⟨⟨'A', by decide⟩, ⟨'→', by decide⟩, ⟨'B', by decide⟩⟩⟩))).length ≤ 17 := by
    decide +kernel
  refine ⟨outcome, printer, hsolve, hfailed (mt hok.mp hlong), UInt64.toNat_inj.mp ?_, ?_, ?_⟩
  · rw [hcount]
    decide +kernel
  · exact hwritten.trans (by decide +kernel)
  · exact hfinish.trans (by decide +kernel)

end TowerOfHanoi
