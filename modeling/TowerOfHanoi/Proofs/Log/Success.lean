import TowerOfHanoi.Proofs.Log.Page
import TowerOfHanoi.Proofs.Stream.Content
import TowerOfHanoi.Proofs.Streaming

/-!
# What a printer holds when it succeeds

Whatever a device does, a printer that has been fed moves without a failure holds their records, and
a log that has been ended without a failure is the page of its moves. So a failure that loses a part
of a log shows at the latest when the log is ended. This is the reason for which a printer that
writes through a buffer has to be ended. A device that never fails gives such a success.

## Main definitions

* `Printer.Holds`: the invariant, which ties the count and the content to the moves so far.

## Main results

* `Printer.Holds.print`, `Printer.Holds.feed`: a move or a list of moves that succeeds keeps it.
* `Printer.Holds.content_finish`: a log that is ended with success is a page.
* `Device.NeverFails.feed`, `Device.NeverFails.finish`: a device that never fails gives success.
* `Device.Keeps.feed`, `Device.Keeps.finish`: what offers and flushes keep, a printer keeps.
-/

namespace TowerOfHanoi

variable {δ : Type}

/-! ### Printing as sending -/

namespace Printer

section Device

variable [Device δ]

theorem print_eq (move : Move) (printer : Printer δ) :
    Printer.print move printer =
      match sendTexts (MoveLog.entry printer.count move) printer.device with
      | (.ok (), device) => (.ok (), ⟨device, printer.count + 1⟩)
      | (.error fault, device) => (.error fault, ⟨device, printer.count⟩) :=
  rfl

/-- To the device, a call is the sending of the texts of a move. -/
theorem map_device_print (move : Move) (printer : Printer δ) :
    Prod.map id Printer.device (Printer.print move printer) =
      sendTexts (MoveLog.entry printer.count move) printer.device := by
  rw [print_eq]
  rcases sendTexts (MoveLog.entry printer.count move) printer.device with ⟨fault | _, device⟩ <;>
    rfl

/-- To the count, all that matters of a call is whether it succeeds. -/
theorem count_print (move : Move) (printer : Printer δ) :
    (Printer.print move printer).2.count =
      if (Printer.print move printer).1 = .ok () then printer.count + 1 else printer.count := by
  rw [print_eq]
  rcases sendTexts (MoveLog.entry printer.count move) printer.device with ⟨fault | _, device⟩ <;>
    simp

theorem sendTexts_of_print_eq_ok {move : Move} {printer after : Printer δ}
    (h : Printer.print move printer = (.ok (), after)) :
    sendTexts (MoveLog.entry printer.count move) printer.device = (.ok (), after.device) ∧
      after.count = printer.count + 1 := by
  have hsent := map_device_print move printer
  have hcount := count_print move printer
  rw [h] at hsent hcount
  exact ⟨hsent.symm, hcount⟩

/-- A call that succeeds adds one to the count, unless the count is the largest there is. -/
theorem toNat_count_of_print_eq_ok {move : Move} {printer after : Printer δ}
    (hroom : printer.count.toNat + 1 < 2 ^ 64)
    (h : Printer.print move printer = (.ok (), after)) :
    after.count.toNat = printer.count.toNat + 1 := by
  rw [(sendTexts_of_print_eq_ok h).2, UInt64.toNat_add]
  exact Nat.mod_eq_of_lt hroom

end Device

/-! ### What is held -/

section Ledger

open Ledger (content content_flush)

variable [Device δ] [Ledger δ] {front : List UInt8} {moves : List Move}
variable {printer after : Printer δ}

/-- A printer holds the records of moves behind what was in front of them, and has counted them. -/
structure Holds (front : List UInt8) (moves : List Move) (printer : Printer δ) : Prop where
  count_eq : printer.count.toNat = moves.length
  content_eq : content printer.device = front ++ bytesOfText (MoveLog.records 0 moves)

theorem holds_nil (device : δ) : Holds (content device) [] ⟨device, 0⟩ where
  count_eq := rfl
  content_eq := (List.append_nil _).symm

theorem Holds.print (hholds : Holds front moves printer) {move : Move}
    (hroom : (moves ++ [move]).length < 2 ^ 64)
    (h : Printer.print move printer = (.ok (), after)) : Holds front (moves ++ [move]) after := by
  obtain ⟨hsent, -⟩ := sendTexts_of_print_eq_ok h
  constructor
  · rw [List.length_append, List.length_singleton, ← hholds.count_eq] at hroom ⊢
    exact toNat_count_of_print_eq_ok hroom h
  · rw [content_of_sendTexts hsent, hholds.content_eq, MoveLog.join_entry, hholds.count_eq,
      List.append_assoc, ← bytesOfText_append, ← MoveLog.records_concat]

theorem Holds.feed (hholds : Holds front moves printer) {more : List Move}
    (hroom : (moves ++ more).length < 2 ^ 64)
    (h : TowerOfHanoi.feed Printer.print more printer = (.ok (), after)) :
    Holds front (moves ++ more) after := by
  induction more generalizing moves printer with
  | nil =>
    cases h
    rwa [List.append_nil]
  | cons move rest ih =>
    rw [List.append_cons] at hroom ⊢
    rw [TowerOfHanoi.feed] at h
    split at h
    · rename_i during hprint
      refine ih (hholds.print ?_ hprint) hroom h
      rw [List.length_append] at hroom
      omega
    · cases h

/-- A log that is ended with success is complete. -/
theorem Holds.content_finish (hholds : Holds front moves printer) {ended : δ}
    (h : printer.finish = (.ok (), ended)) :
    content ended = front ++ bytesOfText (MoveLog.page moves) := by
  have hempty : printer.count = 0 ↔ moves = [] := by
    rw [← UInt64.toNat_inj, hholds.count_eq]
    exact List.length_eq_zero_iff
  unfold Printer.finish at h
  split at h
  · rename_i sent hsend
    rw [content_flush h, content_of_sendTexts hsend, hholds.content_eq, MoveLog.page_eq_records,
      List.append_assoc, ← bytesOfText_append]
    simp only [hempty]
    split <;> simp
  · cases h

end Ledger

section Buffered

open Archive (written)

variable [Archive δ] {front : List UInt8} {moves : List Move} {printer : Printer (Buffered δ)}

/-- A log that is written through a buffer is there as a whole once it is ended with success. -/
theorem Holds.written_finish (hholds : Holds front moves printer) {ended : Buffered δ}
    (h : printer.finish = (.ok (), ended)) :
    written ended.device = front ++ bytesOfText (MoveLog.page moves) := by
  have hcontent : ended.held = _ := hholds.content_finish h
  unfold Printer.finish at h
  split at h
  · obtain ⟨-, -, -, hkept⟩ := Buffered.of_flush_eq_ok h
    rw [← hcontent, Buffered.held, hkept]
    exact (List.append_nil _).symm
  · cases h

end Buffered

/-- Solving a puzzle with a printer feeds its steps to the printer. -/
theorem run_solve [Device δ] {puzzle : Puzzle} (bound : puzzle.disks ≤ Puzzle.maxDisks)
    (printer : Printer δ) :
    (Printer.solve puzzle).run.run printer =
      Prod.map (Except.mapError .sink) id (feed Printer.print puzzle.steps printer) :=
  solve_ofRecord Printer.print bound printer

end Printer

/-! ### Devices behind printers -/

section Device

variable [Device δ] {printer : Printer δ}

namespace Device.NeverFails

theorem print (hdevice : NeverFails printer.device) (move : Move) :
    ∃ after, Printer.print move printer = (.ok (), after) ∧ NeverFails after.device := by
  have hsent := hdevice.sendTexts (MoveLog.entry printer.count move)
  rw [← Printer.map_device_print] at hsent
  exact ⟨(Printer.print move printer).2, Prod.ext hsent.1 rfl, hsent.2⟩

theorem feed (hdevice : NeverFails printer.device) (moves : List Move) :
    ∃ after, TowerOfHanoi.feed Printer.print moves printer = (.ok (), after) ∧
      NeverFails after.device := by
  induction moves generalizing printer with
  | nil => exact ⟨printer, rfl, hdevice⟩
  | cons move rest ih =>
    obtain ⟨during, hprint, hduring⟩ := hdevice.print move
    obtain ⟨after, hrest, hafter⟩ := ih hduring
    exact ⟨after, by simp only [TowerOfHanoi.feed, hprint, hrest], hafter⟩

theorem finish (hdevice : NeverFails printer.device) :
    ∃ ended, printer.finish = (.ok (), ended) := by
  have hsent := hdevice.sendTexts (if printer.count = 0 then [] else ["\n"])
  unfold Printer.finish
  generalize TowerOfHanoi.sendTexts _ printer.device = answer at hsent ⊢
  rcases answer with ⟨fault | _, sent⟩
  · cases hsent.1
  · exact ⟨_, Prod.ext hsent.2.flush.1 rfl⟩

end Device.NeverFails

namespace Device.Keeps

variable {steady : δ → Prop} (hkeeps : Keeps steady)

include hkeeps

theorem print (hdevice : steady printer.device) (move : Move) :
    steady (Printer.print move printer).2.device := by
  have hsent := hkeeps.sendTexts hdevice (MoveLog.entry printer.count move)
  rwa [← Printer.map_device_print] at hsent

theorem feed (hdevice : steady printer.device) (moves : List Move) :
    steady (TowerOfHanoi.feed Printer.print moves printer).2.device := by
  induction moves generalizing printer with
  | nil => exact hdevice
  | cons move rest ih =>
    have hprinted := hkeeps.print hdevice move
    rw [TowerOfHanoi.feed]
    generalize Printer.print move printer = answer at hprinted ⊢
    rcases answer with ⟨fault | _, during⟩
    · exact hprinted
    · exact ih hprinted

theorem finish (hdevice : steady printer.device) : steady printer.finish.2 := by
  have hsent := hkeeps.sendTexts hdevice (if printer.count = 0 then [] else ["\n"])
  unfold Printer.finish
  generalize TowerOfHanoi.sendTexts _ printer.device = answer at hsent ⊢
  rcases answer with ⟨fault | _, sent⟩
  · exact hsent
  · exact (hkeeps sent hsent).2

end Device.Keeps

end Device

end TowerOfHanoi
