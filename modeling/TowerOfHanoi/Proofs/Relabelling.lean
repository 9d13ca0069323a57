import TowerOfHanoi.Proofs.Log.Layout

/-!
# Other labels

A transfer hands its three pegs on to its parts and never compares them. So the steps for other
pegs are the same steps with the pegs replaced, all at once: two puzzles may have the same three
labels in other roles. A sink that looks at the number of moves alone treats both puzzles alike,
wherever it refuses to go on. A printer does look at the labels, but they change no more than the
characters that name the pegs in its log.

## Main definitions

* `Move.relabel`, `Pegs.replaceBy`: pegs that stand for other pegs, in a move and for a puzzle.
* `Sink.limited`: the sink that keeps so many moves and no more.
* `Printer.Solves`: the text that the solution of a puzzle leaves on a device.

## Main results

* `steps_relabel`, `Puzzle.steps_replaceBy`: the steps with the pegs replaced.
* `feed_limited`: what is kept of a list of moves up to a limit.
* `solution_relabelled`: the kept moves and the logs of two puzzles that differ in their labels.
-/

namespace TowerOfHanoi

/-! ### Pegs that stand for other pegs -/

/-- The move between the pegs that stand for its own. -/
def Move.relabel (change : Peg → Peg) (move : Move) : Move where
  source := change move.source
  target := change move.target

/-- **A transfer does not look at its pegs.** Nothing is asked of the pegs that stand for its own:
some of them may be the same. -/
theorem steps_relabel (change : Peg → Peg) (disks : Nat) (source target spare : Peg) :
    steps disks (change source) (change target) (change spare) =
      (steps disks source target spare).map (Move.relabel change) := by
  induction disks generalizing source target spare with
  | zero => rfl
  | succ disks ih =>
    rw [steps, steps, ih, ih, List.map_append, List.map_append]
    rfl

namespace Pegs

/-- The peg that stands for a peg when the pegs of a puzzle are replaced, all at once, by others of
the same roles. -/
def replaceBy (pegs others : Pegs) (peg : Peg) : Peg :=
  if peg = pegs.source then others.source
  else if peg = pegs.destination then others.destination
  else if peg = pegs.auxiliary then others.auxiliary
  else peg

variable {pegs : Pegs} (hpegs : pegs.Distinct) (others : Pegs)

theorem replaceBy_source : pegs.replaceBy others pegs.source = others.source :=
  if_pos rfl

include hpegs

theorem replaceBy_destination : pegs.replaceBy others pegs.destination = others.destination := by
  obtain ⟨hsd, -, -⟩ := hpegs
  rw [replaceBy, if_neg hsd.symm, if_pos rfl]

theorem replaceBy_auxiliary : pegs.replaceBy others pegs.auxiliary = others.auxiliary := by
  obtain ⟨-, hsa, hda⟩ := hpegs
  rw [replaceBy, if_neg hsa.symm, if_neg hda.symm, if_pos rfl]

end Pegs

/-- The steps of a puzzle with other pegs are its steps with the pegs replaced. -/
theorem Puzzle.steps_replaceBy (disks : UInt32) {pegs : Pegs} (hpegs : pegs.Distinct)
    (others : Pegs) :
    (Puzzle.mk disks others).steps =
      (Puzzle.mk disks pegs).steps.map (Move.relabel (pegs.replaceBy others)) := by
  rw [steps, steps, ← steps_relabel, Pegs.replaceBy_source, Pegs.replaceBy_destination hpegs,
    Pegs.replaceBy_auxiliary hpegs]

/-! ### Sinks with a limit -/

section Limited

variable {ε : Type} (limit : Nat) (refusal : ε)

/-- The sink that keeps moves up to a limit and refuses all others. -/
def Sink.limited : Sink (StateM (List Move)) ε :=
  .ofRecord fun move kept =>
    if kept.length < limit then (.ok (), kept ++ [move]) else (.error refusal, kept)

/-- Of a list of moves as many are kept as the limit allows, and it is taken as a whole if that is
all of it. -/
theorem feed_limited (moves kept : List Move) (hkept : kept.length ≤ limit) :
    feed (Sink.limited limit refusal).record moves kept =
      (if kept.length + moves.length ≤ limit then .ok () else .error refusal,
        kept ++ moves.take (limit - kept.length)) := by
  induction moves generalizing kept with
  | nil => simp [feed, hkept]
  | cons move rest ih =>
    have hrecord : (Sink.limited limit refusal).record move kept =
        if kept.length < limit then (.ok (), kept ++ [move]) else (.error refusal, kept) :=
      rfl
    rw [feed, hrecord, List.length_cons]
    by_cases hroom : kept.length < limit
    · have hlength : (kept ++ [move]).length = kept.length + 1 := List.length_append
      have hleft : limit - kept.length = limit - (kept ++ [move]).length + 1 := by omega
      have hcount : kept.length + (rest.length + 1) = (kept ++ [move]).length + rest.length := by
        omega
      rw [if_pos hroom, hleft, hcount, List.take_succ_cons, List.append_cons _ _ (rest.take _)]
      exact ih (kept ++ [move]) (by omega)
    · have hfull : limit - kept.length = 0 := by omega
      rw [if_neg hroom, if_neg (by omega), hfull, List.take_zero, List.append_nil]

theorem solve_limited {puzzle : Puzzle} (bound : puzzle.disks ≤ Puzzle.maxDisks) :
    (solve (Sink.limited limit refusal) puzzle).run.run [] =
      (if puzzle.steps.length ≤ limit then .ok () else .error (.sink refusal),
        puzzle.steps.take limit) := by
  have hfed := feed_limited limit refusal puzzle.steps [] (Nat.zero_le _)
  rw [Sink.limited, solve_ofRecord _ bound]
  change Prod.map _ _ (feed (Sink.limited limit refusal).record puzzle.steps []) = _
  rw [hfed, List.length_nil, Nat.zero_add]
  split <;> rfl

end Limited

/-! ### Logs of solutions -/

section Logs

open Archive (written)

variable {δ : Type} [Archive δ] {device : δ}

/-- A text is what solving a puzzle with a new printer, and ending the log, leaves on a device. -/
def Printer.Solves (device : δ) (puzzle : Puzzle) (text : String) : Prop :=
  ∃ printer after, (Printer.solve puzzle).run.run ⟨device, 0⟩ = (.ok (), printer) ∧
    printer.finish = (.ok (), after) ∧ written after = written device ++ bytesOfText text

/-- On a device that never fails this is the page of the steps, and no other text. -/
theorem Printer.solves_iff (hdevice : Device.NeverFails device) {puzzle : Puzzle}
    (bound : puzzle.disks ≤ Puzzle.maxDisks) {text : String} :
    Printer.Solves device puzzle text ↔ text = MoveLog.page puzzle.steps := by
  obtain ⟨printer, after, hsolve, -, hfinish, hwritten⟩ := exists_of_solve hdevice bound
  constructor
  · rintro ⟨_, _, hother, hended, htext⟩
    cases hsolve.symm.trans hother
    cases hfinish.symm.trans hended
    exact bytesOfText_injective (List.append_cancel_left (htext.symm.trans hwritten))
  · rintro rfl
    exact ⟨printer, after, hsolve, hfinish, hwritten⟩

end Logs

/-! ### Two labellings of a puzzle -/

/-- **Labels do not influence the solution.** Let two puzzles have the same number of disks, up to
64, and let the pegs of the first be different. They are solved with two sinks that have the same
limit. Then both are solved, or both fail with the refusal of their sinks, and the moves that the
second sink keeps are those that the first one keeps, with the pegs of the first puzzle replaced by
those of the second. On devices that never fail, either puzzle leaves one log. The two logs have the
same number of lines, the same numbers on the lines, and the same number of characters. Every move
stands at the same place in both, and they differ at most in the two characters of a move that name
its pegs. -/
theorem solution_relabelled (disks : UInt32) (bound : disks ≤ 64) (pegs others : Pegs)
    (hpegs : pegs.Distinct) :
    (∀ {ε ε' : Type} (refusal : ε) (refusal' : ε') (limit : Nat), ∃ kept : List Move,
      kept.length = min limit (2 ^ disks.toNat - 1) ∧
      (solve (.limited limit refusal) ⟨disks, pegs⟩).run.run [] =
        (if 2 ^ disks.toNat - 1 ≤ limit then .ok () else .error (.sink refusal), kept) ∧
      (solve (.limited limit refusal') ⟨disks, others⟩).run.run [] =
        (if 2 ^ disks.toNat - 1 ≤ limit then .ok () else .error (.sink refusal'),
          kept.map (Move.relabel (pegs.replaceBy others)))) ∧
    ∀ {δ δ' : Type} [Archive δ] [Archive δ'] {device : δ} {device' : δ'},
      Device.NeverFails device → Device.NeverFails device' →
      ∃ log log', (∀ text, Printer.Solves device ⟨disks, pegs⟩ text ↔ text = log) ∧
        (∀ text, Printer.Solves device' ⟨disks, others⟩ text ↔ text = log') ∧
        MoveLog.Alike log log' ∧
        ∀ before move rest, (Puzzle.mk disks pegs).steps = before ++ move :: rest →
          (log.toList.drop (MoveLog.movePlace before.length)).take 4 = move.text.toList ∧
          (log'.toList.drop (MoveLog.movePlace before.length)).take 4 =
            (move.relabel (pegs.replaceBy others)).text.toList := by
  have hsteps := Puzzle.steps_replaceBy disks hpegs others
  have hlength : (Puzzle.mk disks pegs).steps.length = 2 ^ disks.toNat - 1 := length_steps _ _ _ _
  constructor
  · intro ε ε' refusal refusal' limit
    refine ⟨(Puzzle.mk disks pegs).steps.take limit, ?_, ?_, ?_⟩
    · rw [List.length_take, hlength]
    · rw [solve_limited limit refusal bound, hlength]
    · rw [solve_limited limit refusal' bound, hsteps, List.length_map, hlength, List.map_take]
  · intro δ δ' _ _ device device' hdevice hdevice'
    refine ⟨_, _, fun text => Printer.solves_iff hdevice bound,
      fun text => Printer.solves_iff hdevice' bound, ?_, fun before move rest hmoves => ?_⟩
    · rw [hsteps]
      exact MoveLog.alike_page _ _
    · rw [hsteps, hmoves]
      exact ⟨MoveLog.take_drop_page before move rest,
        MoveLog.take_drop_page_map _ before move rest⟩

/-- Three pegs change their roles, and both solutions end at the third move; and labels that are the
punctuation of the log, written one byte at a time, leave a log of the same layout. -/
theorem solution_relabelled_punctuation :
    (∃ kept, kept.length = 2 ∧
      (solve (.limited 2 "full") ⟨3, .standard⟩).run.run [] = (.error (.sink "full"), kept) ∧
      (solve (.limited 2 ()) ⟨3, ⟨Pegs.standard.destination, Pegs.standard.auxiliary,
          Pegs.standard.source⟩⟩).run.run [] =
        (.error (.sink ()), kept.map (Move.relabel (Pegs.standard.replaceBy
          ⟨Pegs.standard.destination, Pegs.standard.auxiliary, Pegs.standard.source⟩)))) ∧
    Printer.Solves ({} : Tape) ⟨2, .standard⟩ "\n    0: A->B A->C B->C\n" ∧
    Printer.Solves ({ chunk := some 1 } : Tape)
      ⟨2, ⟨⟨'-', by decide⟩, ⟨'>', by decide⟩, ⟨':', by decide⟩⟩⟩
      "\n    0: -->: -->> :->>\n" ∧
    MoveLog.Alike "\n    0: A->B A->C B->C\n" "\n    0: -->: -->> :->>\n" := by
  have hdevice : Device.NeverFails ({} : Tape) := Tape.Unlimited.neverFails ⟨rfl, by decide, rfl⟩
  have hdevice' : Device.NeverFails ({ chunk := some 1 } : Tape) :=
    Tape.Unlimited.neverFails ⟨rfl, by decide, rfl⟩
  have hlog : Printer.Solves ({} : Tape) ⟨2, .standard⟩ "\n    0: A->B A->C B->C\n" :=
    (Printer.solves_iff hdevice (by decide)).mpr (by decide +kernel)
  have hlog' : Printer.Solves ({ chunk := some 1 } : Tape)
      ⟨2, ⟨⟨'-', by decide⟩, ⟨'>', by decide⟩, ⟨':', by decide⟩⟩⟩
      "\n    0: -->: -->> :->>\n" :=
    (Printer.solves_iff hdevice' (by decide)).mpr (by decide +kernel)
  obtain ⟨log, log', hunique, hunique', halike, -⟩ :=
    (solution_relabelled 2 (by decide) .standard
      ⟨⟨'-', by decide⟩, ⟨'>', by decide⟩, ⟨':', by decide⟩⟩ (by decide)).2 hdevice hdevice'
  obtain rfl := (hunique _).mp hlog
  obtain rfl := (hunique' _).mp hlog'
  obtain ⟨kept, hkept, hsolve, hsolve'⟩ := (solution_relabelled 3 (by decide) .standard
    ⟨Pegs.standard.destination, Pegs.standard.auxiliary, Pegs.standard.source⟩ (by decide)).1
    "full" () 2
  exact ⟨⟨kept, hkept, hsolve, hsolve'⟩, hlog, hlog', halike⟩

end TowerOfHanoi
