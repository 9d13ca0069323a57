import TowerOfHanoi.Proofs.Log.Success
import TowerOfHanoi.Proofs.Stream.Transcript

/-!
# Printing on devices that fail

A device may take a part of what it is offered, take nothing, be interrupted or refuse, and do
something else each time. A call on a printer then succeeds or fails, and further calls may follow
either way. This file shows that the count is the number of the calls that have succeeded, that
each of these has left all of its record on the device, and that a call that fails leaves a part of
its record from the front and the count as it was. The call after it therefore starts the record
with the same number again, whatever has been written of it.

## Main definitions

* `Printer.Single`: a call that brings a printer one move.
* `Printer.attempts`: such calls one after the other, whatever comes of them.
* `Printer.Attempted`: what a call has written of its record, and what it has done to the count.

## Main results

* `Printer.attempted_print`: a call writes its record, or a proper part of it.
* `Printer.count_attempts`: the count is the number of successes.
* `print_survives_faults`: any call after any other calls, on any device.
-/

namespace TowerOfHanoi

namespace Printer

/-! ### Calls -/

/-- A call that brings a printer one move. -/
inductive Single
  /-- Prints the move. -/
  | print (move : Move)
  /-- Hands the move to the printer as to a sink. -/
  | record (move : Move)

/-- The move that a call brings. -/
def Single.move : Single → Move
  | print move => move
  | record move => move

section Calls

variable {δ : Type} [Device δ]

/-- Makes a call. -/
def Single.perform : Single → Printer δ → Except Fault Unit × Printer δ
  | print move => (Printer.print move).run.run
  | record move => (Printer.sink.record move).run.run

/-- Makes the calls one after the other, whatever comes of them, and tells how each ended. -/
def attempts : List Single → Printer δ → List (Except Fault Unit) × Printer δ
  | [], printer => ([], printer)
  | call :: rest, printer =>
    let (outcome, printer) := call.perform printer
    let (outcomes, printer) := attempts rest printer
    (outcome :: outcomes, printer)

theorem Single.perform_eq (call : Single) (printer : Printer δ) :
    call.perform printer = Printer.print call.move printer := by
  cases call <;> rfl

end Calls

/-! ### One call -/

section Archive

open Archive (written)

variable {δ : Type} [Archive δ]

/-- What a call that brings a move has done to a printer: it has written the record of the move
and counted it, or it has failed with something of the record missing and has counted nothing. -/
inductive Attempted (printer : Printer δ) (move : Move) : Except Fault Unit × Printer δ → Prop
  /-- The whole record is there. -/
  | all {after : Printer δ} (count_eq : after.count = printer.count + 1)
      (written_eq : written after.device =
        written printer.device ++ bytesOfText (MoveLog.record printer.count.toNat move)) :
      Attempted printer move (.ok (), after)
  /-- A proper part of the record is there. -/
  | part {after : Printer δ} (fault : Fault) (sent missed : List UInt8)
      (split : bytesOfText (MoveLog.record printer.count.toNat move) = sent ++ missed)
      (missing : missed ≠ []) (count_eq : after.count = printer.count)
      (written_eq : written after.device = written printer.device ++ sent) :
      Attempted printer move (.error fault, after)

theorem attempted_print (printer : Printer δ) (move : Move) :
    Attempted printer move (Printer.print move printer) := by
  have htook := took_sendTexts (MoveLog.entry printer.count move) printer.device
  rw [← bytesOfText_join, MoveLog.join_entry, ← map_device_print] at htook
  have hcount := count_print move printer
  cases h : Printer.print move printer with
  | mk result after =>
    rw [h] at htook hcount
    cases htook with
    | all written_eq => exact .all hcount written_eq
    | part fault sent missed split missing written_eq =>
      exact .part fault sent missed split missing hcount written_eq

end Archive

section Device

variable {δ : Type} [Device δ]

/-- The fault that a call fails with is the first that the device has reported to it. -/
theorem heard_print (move : Move) (printer : Printer (Transcript δ)) :
    Heard printer.device (Prod.map id Printer.device (Printer.print move printer)) := by
  rw [map_device_print]
  exact heard_sendTexts (MoveLog.entry printer.count move) printer.device

/-- The printer on the device whose answers are kept. -/
def unheard (printer : Printer (Transcript δ)) : Printer δ :=
  ⟨printer.device.device, printer.count⟩

/-- Keeping the answers changes nothing for a call. -/
theorem print_unheard (move : Move) (printer : Printer (Transcript δ)) :
    Printer.print move printer.unheard = Prod.map id unheard (Printer.print move printer) := by
  rw [print_eq, print_eq, unheard, Transcript.device_view.sendTexts]
  rcases sendTexts (MoveLog.entry printer.count move) printer.device with ⟨fault | _, device⟩ <;>
    rfl

/-! ### Many calls -/

theorem attempts_unheard (calls : List Single) (printer : Printer (Transcript δ)) :
    attempts calls printer.unheard = Prod.map id unheard (attempts calls printer) := by
  induction calls generalizing printer with
  | nil => rfl
  | cons call rest ih =>
    simp only [attempts, Single.perform_eq, print_unheard, Prod.map_fst, Prod.map_snd, ih, id]
    rfl

/-- The count goes up by one with every success, as long as it fits. -/
theorem count_attempts (calls : List Single) (printer : Printer δ)
    (hroom : printer.count.toNat + (attempts calls printer).1.count (.ok ()) < 2 ^ 64) :
    (attempts calls printer).2.count.toNat =
      printer.count.toNat + (attempts calls printer).1.count (.ok ()) := by
  induction calls generalizing printer with
  | nil => rfl
  | cons call rest ih =>
    simp only [attempts, Single.perform_eq, List.count_cons, beq_iff_eq] at hroom ⊢
    have hcount := count_print call.move printer
    have hrest := ih (Printer.print call.move printer).2
    split at hcount
    · rename_i hok
      rw [if_pos hok] at hroom ⊢
      have hnext : (printer.count + 1).toNat = printer.count.toNat + 1 := by
        rw [UInt64.toNat_add]
        exact Nat.mod_eq_of_lt (by simp only [UInt64.reduceToNat]; omega)
      rw [hcount, hnext] at hrest
      omega
    · rename_i hfault
      rw [if_neg hfault] at hroom ⊢
      rw [hcount] at hrest
      omega

/-- A new printer counts the successes. -/
theorem count_attempts_new {device : δ} {calls : List Single}
    {outcomes : List (Except Fault Unit)} {printer : Printer δ}
    (hcalls : attempts calls ⟨device, 0⟩ = (outcomes, printer))
    (hroom : outcomes.count (.ok ()) < 2 ^ 64) :
    printer.count.toNat = outcomes.count (.ok ()) := by
  have hcount := count_attempts calls ⟨device, 0⟩
  simp only [hcalls, UInt64.toNat_zero, Nat.zero_add] at hcount
  exact hcount hroom

theorem attempts_concat (calls : List Single) (call : Single) (printer : Printer δ) :
    attempts (calls ++ [call]) printer =
      ((attempts calls printer).1 ++ [(call.perform (attempts calls printer).2).1],
        (call.perform (attempts calls printer).2).2) := by
  induction calls generalizing printer with
  | nil => rfl
  | cons first rest ih => simp only [List.cons_append, attempts, ih]

end Device

end Printer

/-- **Printing survives faults.** Let calls be made on a new printer, each of which brings one move,
and let one more follow, on a device that may fail in any way and whose answers are kept. Keeping
them changes nothing. If fewer than 2^64 calls succeed, the count is the number of the successes
before the last call and after it. The last call writes the record that has the count before it as
its number: all of it if it succeeds, and no answer has then reported a fault; and a proper part of
it from the front if it fails, with the fault that the device reported in its last answer, the first
to report any. -/
theorem print_survives_faults {δ : Type} [Device δ] (device : δ) (calls : List Printer.Single)
    (call : Printer.Single) {outcomes : List (Except Fault Unit)} {outcome : Except Fault Unit}
    {before after : Printer (Transcript δ)}
    (hcalls : Printer.attempts calls ⟨⟨device, []⟩, 0⟩ = (outcomes, before))
    (hcall : call.perform before = (outcome, after))
    (hroom : (outcomes ++ [outcome]).count (.ok ()) < 2 ^ 64) :
    Printer.attempts calls ⟨device, 0⟩ = (outcomes, before.unheard) ∧
    call.perform before.unheard = (outcome, after.unheard) ∧
    before.count.toNat = outcomes.count (.ok ()) ∧
    after.count.toNat = (outcomes ++ [outcome]).count (.ok ()) ∧
    ∃ (sent missed : List UInt8) (answers : List (List UInt8 × Reply)),
      bytesOfText (MoveLog.record (outcomes.count (.ok ())) call.move) = sent ++ missed ∧
      Archive.written after.device = Archive.written before.device ++ sent ∧
      after.device.answers = before.device.answers ++ answers ∧
      (outcome = .ok () → missed = [] ∧ ∀ answer ∈ answers, answer.2.fault? = none) ∧
      ∀ fault, outcome = .error fault →
        missed ≠ [] ∧ after.count = before.count ∧
        ∃ earlier last, answers = earlier ++ [last] ∧
          (∀ answer ∈ earlier, answer.2.fault? = none) ∧ last.2.fault? = some fault := by
  have hboth : Printer.attempts (calls ++ [call]) ⟨⟨device, []⟩, 0⟩ =
      (outcomes ++ [outcome], after) := by
    rw [Printer.attempts_concat, hcalls, hcall]
  have hafter : after.count.toNat = (outcomes ++ [outcome]).count (.ok ()) :=
    Printer.count_attempts_new hboth hroom
  have hbefore : before.count.toNat = outcomes.count (.ok ()) := by
    rw [List.count_append] at hroom
    exact Printer.count_attempts_new hcalls (by omega)
  have hplain : Printer.attempts calls ⟨device, 0⟩ = (outcomes, before.unheard) := by
    have hsame := Printer.attempts_unheard calls ⟨⟨device, []⟩, 0⟩
    rwa [hcalls] at hsame
  have hplainCall : call.perform before.unheard = (outcome, after.unheard) := by
    rw [Printer.Single.perform_eq, Printer.print_unheard, ← Printer.Single.perform_eq, hcall]
    rfl
  refine ⟨hplain, hplainCall, hbefore, hafter, ?_⟩
  rw [Printer.Single.perform_eq] at hcall
  have hattempted := Printer.attempted_print before call.move
  have hheard := Printer.heard_print call.move before
  rw [hcall] at hattempted hheard
  rw [← hbefore]
  cases hattempted with
  | all count_eq written_eq =>
    cases hheard with
    | fine answers answers_eq faultless =>
      exact ⟨_, [], answers, (List.append_nil _).symm, written_eq, answers_eq,
        fun _ => ⟨rfl, faultless⟩, fun fault h => nomatch h⟩
  | part fault sent missed split missing count_eq written_eq =>
    cases hheard with
    | faulty _ answers last answers_eq faultless last_eq =>
      refine ⟨sent, missed, answers ++ [last], split, written_eq, answers_eq,
        (fun h => nomatch h), ?_⟩
      rintro _ ⟨⟩
      exact ⟨missing, count_eq, answers, last, rfl, faultless, last_eq⟩

/-- The device breaks off the first record behind three bytes and the third behind two. The second
record starts the line again, and the fourth call writes the record that the third has begun. -/
theorem print_survives_faults_script :
    ∃ before after : Printer (Transcript Script),
      Printer.attempts
          [.print ⟨Pegs.standard.source, Pegs.standard.auxiliary⟩,
            .record ⟨Pegs.standard.source, Pegs.standard.auxiliary⟩,
            .print ⟨Pegs.standard.auxiliary, Pegs.standard.destination⟩]
          ⟨⟨⟨[.interrupted, .took 1, .took 1, .took 1, .refused .noSpace, .took 1, .took 1, .took 1,
            .took 1, .took 1, .took 1, .took 2, .took 1, .took 1, .took 1, .took 1, .took 1,
            .interrupted, .took 1, .took 0]⟩, []⟩, 0⟩ =
        ([.error .noSpace, .ok (), .error .writeZero], before) ∧
      Printer.Single.perform (.record ⟨Pegs.standard.source, Pegs.standard.destination⟩) before =
        (.ok (), after) ∧
      before.count.toNat = 1 ∧ after.count.toNat = 2 ∧
      Archive.written before.device = bytesOfText "\n  \n    0: A->B B" ∧
      Archive.written after.device = bytesOfText "\n  \n    0: A->B B A->C" := by
  obtain ⟨before, after, hcalls, hcall, hfront⟩ : ∃ before after : Printer (Transcript Script),
      Printer.attempts
          [.print ⟨Pegs.standard.source, Pegs.standard.auxiliary⟩,
            .record ⟨Pegs.standard.source, Pegs.standard.auxiliary⟩,
            .print ⟨Pegs.standard.auxiliary, Pegs.standard.destination⟩]
          ⟨⟨⟨[.interrupted, .took 1, .took 1, .took 1, .refused .noSpace, .took 1, .took 1, .took 1,
            .took 1, .took 1, .took 1, .took 2, .took 1, .took 1, .took 1, .took 1, .took 1,
            .interrupted, .took 1, .took 0]⟩, []⟩, 0⟩ =
        ([.error .noSpace, .ok (), .error .writeZero], before) ∧
      Printer.Single.perform (.record ⟨Pegs.standard.source, Pegs.standard.destination⟩) before =
        (.ok (), after) ∧
      Archive.written before.device = bytesOfText "\n  \n    0: A->B B" := by
    have hopening : MoveLog.opening 0 = ["\n", " ", " ", " ", " ", "0", ": "] ∧
        MoveLog.opening 1 = [" "] := by decide +kernel
    have hmarks : bytesOfText "\n" = [10] ∧ bytesOfText " " = [32] ∧ bytesOfText "0" = [48] ∧
        bytesOfText ": " = [58, 32] ∧ bytesOfText "->" = [45, 62] := by decide
    have hlabels : bytesOfText Pegs.standard.source.text = [65] ∧
        bytesOfText Pegs.standard.auxiliary.text = [66] ∧
        bytesOfText Pegs.standard.destination.text = [67] := by decide
    have hfront : bytesOfText "\n  \n    0: A->B B" =
        [10, 32, 32, 10, 32, 32, 32, 32, 48, 58, 32, 65, 45, 62, 66, 32, 66] := by decide
    -- every text is sent by the offers that the script answers
    refine ⟨_, _, Prod.ext ?_ rfl, Prod.ext ?_ rfl, ?_⟩ <;>
      simp [Printer.attempts, Printer.Single.perform_eq, Printer.Single.move, Printer.print_eq,
        MoveLog.entry, hopening, hmarks, hlabels, hfront, sendTexts, send_cons, Device.offer,
        Script.offer, Archive.written, Reply.taken]
  obtain ⟨-, -, hbefore, hafter, sent, missed, answers, hrecord, hwritten, -, hdone, -⟩ :=
    print_survives_faults _ _ _ hcalls hcall (by decide)
  refine ⟨before, after, hcalls, hcall, hbefore, hafter, hfront, ?_⟩
  have hsent : sent = bytesOfText " A->C" := by
    rw [(hdone rfl).1, List.append_nil] at hrecord
    rw [← hrecord]
    decide +kernel
  rw [hwritten, hfront, hsent, ← bytesOfText_append]
  rfl

end TowerOfHanoi
