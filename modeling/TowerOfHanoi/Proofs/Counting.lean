import Mathlib.Algebra.Group.Nat.Defs
import TowerOfHanoi.Proofs.Log.Success

/-!
# The number of moves

The number of moves of a puzzle occurs in four places: it is computed beforehand from the number of
disks, it comes about as a transfer calls its sink, a printer counts it, and a list that collects
the moves starts with room for it. The first and the third are 64-bit numbers. The shift that
computes the first is in range up to 63 disks only; at 64 disks the largest 64-bit number stands in
its place, and this is the exact number too. A printer whose count and the moves that are still to
come fit 64 bits reaches the sum of both, and none of its increments leaves the range. So a new
printer is safe with every puzzle that is solved at all. In the same way a list never grows while
the moves that are still to come fit its room, and the room that it starts with ends up full.

What happens at each increment is said of the calls that a sink gets: they are listed with the
states that they find.

## Main results

* `Puzzle.toNat_moveCount`: the number of moves that is known beforehand is that of the steps.
* `Collected.room_foldl_push`: a list with enough room does not grow.
* `exists_collect`: the list of the moves fills the room that it starts with.
* `exists_transfer_auditing`: how often a transfer calls a sink that never fails.
* `Printer.count_feed`, `Printer.count_lt_of_mem_callsOf`: what a printer counts, and how it gets
  there.
* `move_counts_exact`: all four numbers.
-/

namespace TowerOfHanoi

/-! ### The number that is known beforehand -/

namespace Puzzle

variable {puzzle : Puzzle}

/-- One bit shifted by fewer than 64 places is a power of two. -/
theorem toNat_shiftLeft_one {disks : UInt32} (hsmall : disks < 64) :
    (1 <<< disks.toUInt64 : UInt64).toNat = 2 ^ disks.toNat := by
  have hplaces : disks.toNat < 64 := UInt32.lt_iff_toNat_lt.mp hsmall
  have hfits : 2 ^ disks.toNat < 2 ^ 64 := Nat.pow_lt_pow_right (by decide) hplaces
  rw [UInt64.toNat_shiftLeft, UInt32.toNat_toUInt64, Nat.mod_eq_of_lt hplaces, UInt64.toNat_one,
    Nat.one_shiftLeft, Nat.mod_eq_of_lt hfits]

/-- Up to the limit of disks the number of moves is known beforehand. -/
theorem toNat_moveCount (bound : puzzle.disks ≤ maxDisks) :
    puzzle.moveCount.toNat = puzzle.steps.length := by
  rw [steps, length_steps, moveCount]
  split
  · rename_i hsmall
    have hpower := toNat_shiftLeft_one hsmall
    have hone : (1 : UInt64) ≤ 1 <<< puzzle.disks.toUInt64 := by
      rw [UInt64.le_iff_toNat_le, hpower]
      exact Nat.pow_pos (by decide)
    rw [UInt64.toNat_sub_of_le _ _ hone, hpower]
    rfl
  · rename_i hlarge
    have hdisks : puzzle.disks = 64 := UInt32.le_antisymm bound (UInt32.not_lt.mp hlarge)
    rw [hdisks]
    rfl

/-- Beyond the limit of disks the number stays the largest there is. -/
theorem moveCount_of_lt (excess : maxDisks < puzzle.disks) :
    puzzle.moveCount = 0xffffffffffffffff :=
  if_neg (UInt32.not_lt.mpr (UInt32.le_of_lt excess))

/-- The room that is asked for is that of the steps. -/
theorem room_eq_length_steps (bound : puzzle.disks ≤ maxCollectedDisks) :
    puzzle.room = puzzle.steps.length := by
  have within : puzzle.disks ≤ maxDisks := UInt32.le_trans bound (by decide)
  have hdisks : puzzle.disks.toNat ≤ 20 := UInt32.le_iff_toNat_le.mp bound
  have hpower : 2 ^ puzzle.disks.toNat ≤ 2 ^ 20 := Nat.pow_le_pow_right (by decide) hdisks
  have hsize : 2 ^ 32 ≤ USize.size := UInt32.size_le_usizeSize
  have hfits : puzzle.steps.length ≤ USize.size - 1 := by
    rw [steps, length_steps]
    omega
  rw [room, toNat_moveCount within]
  exact Nat.min_eq_left hfits

end Puzzle

/-! ### The room of a list -/

namespace Collected

theorem room_push (move : Move) (collected : Collected)
    (hroom : collected.moves.size < collected.room) :
    (collected.push move).room = collected.room := by
  rcases collected with ⟨moves, room, size_le_room⟩
  rw [push, dif_pos hroom]

/-- A list with room for all the moves that are to come does not grow. -/
theorem room_foldl_push (moves : List Move) (collected : Collected)
    (hroom : collected.moves.size + moves.length ≤ collected.room) :
    (moves.foldl (fun kept move => kept.push move) collected).room = collected.room := by
  induction moves generalizing collected with
  | nil => rfl
  | cons move rest ih =>
    rw [List.length_cons] at hroom
    have hfirst := room_push move collected (by omega)
    rw [List.foldl_cons, ih, hfirst]
    rw [moves_push, Array.size_push, hfirst]
    omega

end Collected

/-- The list of the moves fills the room that it starts with, and needs no more. -/
theorem exists_collect {puzzle : Puzzle} (bound : puzzle.disks ≤ maxCollectedDisks) :
    ∃ collected, collect puzzle = .ok collected ∧ moves puzzle = .ok collected.moves ∧
      collected.room = puzzle.room ∧ collected.room = collected.moves.size := by
  have hstart : (Collected.withRoom puzzle.room).room = puzzle.steps.length :=
    Puzzle.room_eq_length_steps bound
  have hsize : (Collected.withRoom puzzle.room).moves.size = 0 := rfl
  have hroom := Collected.room_foldl_push puzzle.steps (.withRoom puzzle.room) (by omega)
  have hmoves := Collected.moves_foldl_push puzzle.steps (.withRoom puzzle.room)
  refine ⟨_, collect_eq_ok bound, by rw [moves_eq_map_collect, collect_eq_ok bound]; rfl,
    hroom, ?_⟩
  rw [hroom, hmoves, Array.size_append, hsize, List.size_toArray, hstart, Nat.zero_add]

/-! ### The calls that a sink gets -/

section Calls

variable {σ ε : Type} {record : Move → σ → Except ε Unit × σ}

/-- A sink that never fails takes every list. -/
theorem exists_feed_eq_ok (never : ∀ move state, (record move state).1 = .ok ())
    (moves : List Move) (state : σ) : ∃ after, feed record moves state = (.ok (), after) := by
  rcases feed_split record moves state with hall | ⟨-, move, -, during, _, _, -, -, hmove, -⟩
  · exact hall
  · have hok := never move during
    rw [hmove] at hok
    cases hok

/-- If the calls themselves are noted, nothing else is. -/
theorem feed_auditing_calls (moves : List Move) (state : σ) :
    feed (Sink.auditing record Prod.mk).record moves ([], state) =
      ((feed record moves state).1, callsOf record moves state, (feed record moves state).2) := by
  have hcalls : (callsOf record moves state).map (fun call => (call.1, call.2)) =
      callsOf record moves state := List.map_id' _
  rw [feed_auditing, hcalls, List.nil_append]

/-- A transfer into a sink that never fails calls it once for each step. -/
theorem exists_transfer_auditing (never : ∀ move state, (record move state).1 = .ok ())
    (disks : Nat) (source target spare : Peg) (state : σ) :
    ∃ calls after, calls.length = 2 ^ disks - 1 ∧
      (transfer (.ofRecord record) disks source target spare).run.run state = (.ok (), after) ∧
      (transfer (.auditing record Prod.mk) disks source target spare).run.run ([], state) =
        (.ok (), calls, after) := by
  obtain ⟨after, hfed⟩ := exists_feed_eq_ok never (steps disks source target spare) state
  refine ⟨callsOf record (steps disks source target spare) state, after, ?_, ?_, ?_⟩
  · rw [← List.length_map Prod.fst, map_fst_callsOf hfed, length_steps]
  · rw [transfer_ofRecord, hfed]
  · rw [Sink.auditing, transfer_ofRecord]
    exact (feed_auditing_calls _ state).trans (by rw [hfed])

theorem solve_auditing {puzzle : Puzzle} (bound : puzzle.disks ≤ Puzzle.maxDisks) (state : σ) :
    (solve (.auditing record Prod.mk) puzzle).run.run ([], state) =
      (((solve (.ofRecord record) puzzle).run.run state).1, callsOf record puzzle.steps state,
        ((solve (.ofRecord record) puzzle).run.run state).2) := by
  rw [Sink.auditing, solve_ofRecord _ bound, solve_ofRecord _ bound]
  exact congrArg (Prod.map (Except.mapError SolveError.sink) id)
    (feed_auditing_calls puzzle.steps state)

end Calls

/-! ### What a printer counts -/

namespace Printer

variable {δ : Type} [Device δ] {printer after : Printer δ} {moves : List Move}

/-- A printer that is fed a list of moves counts all of them. -/
theorem count_feed (hroom : printer.count.toNat + moves.length < 2 ^ 64)
    (h : TowerOfHanoi.feed Printer.print moves printer = (.ok (), after)) :
    after.count.toNat = printer.count.toNat + moves.length := by
  induction moves generalizing printer with
  | nil => cases h; rfl
  | cons move rest ih =>
    rw [List.length_cons] at hroom ⊢
    rw [TowerOfHanoi.feed] at h
    split at h
    · rename_i during hprint
      have hcount := toNat_count_of_print_eq_ok (by omega) hprint
      rw [ih (by omega) h, hcount]
      omega
    · cases h

/-- No call finds the largest count there is. -/
theorem count_lt_of_mem_callsOf (hroom : printer.count.toNat + moves.length < 2 ^ 64)
    {call : Move × Printer δ} (hcall : call ∈ callsOf Printer.print moves printer) :
    call.2.count.toNat + 1 < 2 ^ 64 := by
  induction moves generalizing printer with
  | nil => cases hcall
  | cons move rest ih =>
    rw [List.length_cons] at hroom
    have hfirst : printer.count.toNat + 1 < 2 ^ 64 := by omega
    rw [callsOf] at hcall
    split at hcall
    · rename_i during hprint
      have hcount := toNat_count_of_print_eq_ok hfirst hprint
      rcases List.mem_cons.mp hcall with rfl | hlater
      · exact hfirst
      · exact ih (by omega) hlater
    · rw [List.mem_singleton] at hcall
      subst hcall
      exact hfirst

/-- Solving a puzzle with a device that never fails adds the moves of the puzzle to the count. -/
theorem exists_count_solve (hdevice : Device.NeverFails printer.device) {puzzle : Puzzle}
    (bound : puzzle.disks ≤ Puzzle.maxDisks)
    (hroom : printer.count.toNat + puzzle.steps.length < 2 ^ 64) :
    ∃ after, (Printer.solve puzzle).run.run printer = (.ok (), after) ∧
      after.count.toNat = printer.count.toNat + puzzle.moveCount.toNat := by
  obtain ⟨after, hfed, -⟩ := hdevice.feed puzzle.steps
  refine ⟨after, ?_, ?_⟩
  · rw [run_solve bound, hfed]
    rfl
  · rw [count_feed hroom hfed, Puzzle.toNat_moveCount bound]

end Printer

/-! ### All the numbers -/

/-- **The number of moves is exact up to the limit.** A transfer of `n` disks into a sink that never
fails makes `2 ^ n - 1` calls. Up to 64 disks this is the number that is known beforehand. Beyond 64
disks the number known beforehand is the largest that fits 64 bits, and the puzzle is refused before
a sink is told anything. The moves of a puzzle that is solved fit 64 bits behind the count of a new
printer. Wherever they fit behind the count of a printer, no call finds the largest count, be there
failures or not, and if the device never fails, the count ends as the sum of what it was and of the
number known beforehand. The list of the moves of up to 20 disks starts with room for as many moves
as it has in the end, so that it never grows. -/
theorem move_counts_exact :
    (∀ {σ ε : Type} (record : Move → σ → Except ε Unit × σ),
      (∀ move state, (record move state).1 = .ok ()) →
      ∀ (disks : Nat) (source target spare : Peg) (state : σ),
        ∃ calls after, calls.length = 2 ^ disks - 1 ∧
          (transfer (.ofRecord record) disks source target spare).run.run state =
            (.ok (), after) ∧
          (transfer (.auditing record Prod.mk) disks source target spare).run.run ([], state) =
            (.ok (), calls, after)) ∧
    ∀ puzzle : Puzzle,
      (puzzle.disks ≤ 64 → puzzle.moveCount.toNat = 2 ^ puzzle.disks.toNat - 1) ∧
      (64 < puzzle.disks → puzzle.moveCount.toNat = 2 ^ 64 - 1 ∧
        ∀ {m : Type → Type} [Monad m] {ε : Type} (sink : Sink m ε),
          solve sink puzzle = throw (.tooManyDisks puzzle.disks 64)) ∧
      (puzzle.disks ≤ 64 → ∀ {δ : Type} [Device δ] (printer : Printer δ),
        (printer.count = 0 →
          printer.count.toNat + (2 ^ puzzle.disks.toNat - 1) ≤ 2 ^ 64 - 1) ∧
        (printer.count.toNat + (2 ^ puzzle.disks.toNat - 1) ≤ 2 ^ 64 - 1 →
          (∃ calls, (solve (.auditing Printer.print Prod.mk) puzzle).run.run ([], printer) =
              (((Printer.solve puzzle).run.run printer).1, calls,
                ((Printer.solve puzzle).run.run printer).2) ∧
            ∀ call ∈ calls, call.2.count.toNat + 1 ≤ 2 ^ 64 - 1) ∧
          (Device.NeverFails printer.device →
            ∃ after, (Printer.solve puzzle).run.run printer = (.ok (), after) ∧
              after.count.toNat = printer.count.toNat + puzzle.moveCount.toNat))) ∧
      (puzzle.disks ≤ 20 →
        ∃ collected, collect puzzle = .ok collected ∧ moves puzzle = .ok collected.moves ∧
          collected.room = puzzle.room ∧ collected.room = collected.moves.size) := by
  refine ⟨fun record never => exists_transfer_auditing never, fun puzzle => ?_⟩
  have hlength : puzzle.steps.length = 2 ^ puzzle.disks.toNat - 1 := length_steps _ _ _ _
  refine ⟨fun bound => ?_, fun excess => ⟨?_, fun sink => if_pos excess⟩,
    fun bound {δ} _ printer => ⟨fun hnew => ?_, fun hroom => ?_⟩, exists_collect⟩
  · rw [Puzzle.toNat_moveCount bound, hlength]
  · rw [Puzzle.moveCount_of_lt excess]
    rfl
  · have hlt := Puzzle.length_steps_lt bound
    rw [hnew, UInt64.toNat_zero]
    omega
  · have hfits : printer.count.toNat + puzzle.steps.length < 2 ^ 64 := by omega
    refine ⟨⟨_, solve_auditing bound printer, fun call hcall => ?_⟩, fun hdevice => ?_⟩
    · exact Nat.le_sub_one_of_lt (Printer.count_lt_of_mem_callsOf hfits hcall)
    · exact Printer.exists_count_solve hdevice bound hfits

/-- A new printer with 64 disks and a used one with three both end at the largest count there is. -/
theorem move_counts_exact_largest :
    (∃ calls : List (Move × Nat), calls.length = 7 ∧
      (transfer (.auditing (fun _ seen => ((.ok (), seen + 1) : Except Empty Unit × Nat)) Prod.mk) 3
        Pegs.standard.source Pegs.standard.destination Pegs.standard.auxiliary).run.run ([], 0) =
          (.ok (), calls, 7)) ∧
    (∃ after : Printer Tape, (Printer.solve ⟨64, .standard⟩).run.run ⟨{}, 0⟩ = (.ok (), after) ∧
      after.count = 0xffffffffffffffff) ∧
    (∃ after : Printer Tape, (Printer.solve ⟨3, .standard⟩).run.run ⟨{}, 0xfffffffffffffff8⟩ =
        (.ok (), after) ∧ after.count = 0xffffffffffffffff ∧
      ∃ calls, (solve (.auditing Printer.print Prod.mk) ⟨3, .standard⟩).run.run
          ([], ⟨({} : Tape), 0xfffffffffffffff8⟩) = (.ok (), calls, after) ∧
        ∀ call ∈ calls, call.2.count.toNat + 1 ≤ 2 ^ 64 - 1) ∧
    (Puzzle.mk 65 .standard).moveCount.toNat = 2 ^ 64 - 1 ∧
    solve (Printer.sink (δ := Tape)) ⟨65, .standard⟩ = throw (.tooManyDisks 65 64) ∧
    ∃ collected, collect ⟨20, .standard⟩ = .ok collected ∧
      moves ⟨20, .standard⟩ = .ok collected.moves ∧ collected.room = 1048575 ∧
      collected.moves.size = 1048575 := by
  have hdevice : Device.NeverFails ({} : Tape) := Tape.Unlimited.neverFails ⟨rfl, by decide, rfl⟩
  obtain ⟨calls, total, hcalls, htransfer, haudited⟩ :=
    move_counts_exact.1 (fun _ seen => ((.ok (), seen + 1) : Except Empty Unit × Nat))
      (fun _ _ => rfl) 3 Pegs.standard.source Pegs.standard.destination Pegs.standard.auxiliary 0
  have htotal : (7 : Nat) = total := congrArg Prod.snd htransfer
  subst htotal
  have hnew := (move_counts_exact.2 ⟨64, .standard⟩).2.2.1 (by decide) ⟨({} : Tape), 0⟩
  obtain ⟨full, hsolve, hfull⟩ := (hnew.2 (hnew.1 rfl)).2 hdevice
  have hused := ((move_counts_exact.2 ⟨3, .standard⟩).2.2.1 (by decide)
    ⟨({} : Tape), 0xfffffffffffffff8⟩).2 (by decide)
  obtain ⟨last, hlast, hcount⟩ := hused.2 hdevice
  obtain ⟨found, hfound, hbelow⟩ := hused.1
  rw [hlast] at hfound
  have hexcess := (move_counts_exact.2 ⟨65, .standard⟩).2.1 (by decide)
  obtain ⟨collected, hcollect, hlisted, hstart, hend⟩ :=
    (move_counts_exact.2 ⟨20, .standard⟩).2.2.2 (by decide)
  have hasked : (Puzzle.mk 20 .standard).room = 1048575 :=
    (Puzzle.room_eq_length_steps (by decide)).trans (length_steps _ _ _ _)
  exact ⟨⟨calls, hcalls, haudited⟩, ⟨full, hsolve, UInt64.toNat_inj.mp hfull⟩,
    ⟨last, hlast, UInt64.toNat_inj.mp hcount, found, hfound, hbelow⟩, hexcess.1,
    hexcess.2 Printer.sink, collected, hcollect, hlisted, hstart.trans hasked,
    (hstart.trans hasked) ▸ hend.symm⟩

end TowerOfHanoi
