import Mathlib.Algebra.Group.Nat.Defs
import TowerOfHanoi.Transfer

/-!
# The moves of a transfer as a list

A transfer is a double recursion that hands its moves to a sink while it runs. This file writes
the same moves down as a list, by the recursion of the tower and without a sink, and shows that
a transfer does to its sink what feeding this list to the sink does: the moves are recorded from
left to right, up to the first that the sink refuses. Nothing is recorded after that, however
deep in the recursion the refusal happens.

A sink is given here by its function alone: `record` may change its state both when it takes a
move and when it refuses one. What the sink observes beside the moves plays no part.

## Main definitions

* `steps`, `Puzzle.steps`: the moves of a transfer and of a puzzle, as a list.
* `Sink.ofRecord`: the sink with a given recording function; `Sink.keeping` never fails.
* `feed`: recording along a list up to the first failure.
* `Sink.auditing`, `callsOf`: a sink with notes of the calls that it gets, and these calls.
* `transferred`: the moves that a transfer hands to the list that keeps them all.

## Main results

* `transfer_eq_forM`: a transfer records its steps one after the other, in every monad.
* `feed_split`: where a list fed to a sink has failed.
* `feed_auditing`: what is noted of the calls of a sink, beside what the sink does.
* `solve_streams_steps`: solving a puzzle is feeding its steps.
-/

namespace TowerOfHanoi

/-! ### The list of the moves -/

/-- The moves that bring the topmost `disks` disks of `source` to `target`, by way of `spare`. -/
def steps : (disks : Nat) → (source target spare : Peg) → List Move
  | 0, _, _, _ => []
  | disks + 1, source, target, spare =>
    steps disks source spare target ++ [⟨source, target⟩] ++ steps disks spare target source

/-- The moves that solve a puzzle. -/
def Puzzle.steps (puzzle : Puzzle) : List Move :=
  TowerOfHanoi.steps puzzle.disks.toNat puzzle.pegs.source puzzle.pegs.destination
    puzzle.pegs.auxiliary

/-- One disk more than doubles the moves. -/
theorem length_steps_add_one (disks : Nat) (source target spare : Peg) :
    (steps disks source target spare).length + 1 = 2 ^ disks := by
  induction disks generalizing source target spare with
  | zero => rfl
  | succ disks ih =>
    have before := ih source spare target
    have after := ih spare target source
    rw [steps, List.length_append, List.length_append, List.length_singleton, Nat.pow_succ]
    omega

theorem length_steps (disks : Nat) (source target spare : Peg) :
    (steps disks source target spare).length = 2 ^ disks - 1 := by
  rw [← length_steps_add_one disks source target spare, Nat.add_sub_cancel]

/-- The moves of a puzzle within the limit of disks can be counted with 64 bits. -/
theorem Puzzle.length_steps_lt {puzzle : Puzzle} (hbound : puzzle.disks ≤ Puzzle.maxDisks) :
    puzzle.steps.length < 2 ^ 64 := by
  have hdisks : puzzle.disks.toNat ≤ 64 := UInt32.le_iff_toNat_le.mp hbound
  have hpower : 2 ^ puzzle.disks.toNat ≤ 2 ^ 64 := Nat.pow_le_pow_right (by decide) hdisks
  have hlength := length_steps_add_one puzzle.disks.toNat puzzle.pegs.source
    puzzle.pegs.destination puzzle.pegs.auxiliary
  rw [← Puzzle.steps] at hlength
  omega

/-- A transfer between different pegs never moves a disk to the peg it is on. -/
theorem source_ne_target_of_mem_steps {disks : Nat} {source target spare : Peg}
    (hst : source ≠ target) (hss : source ≠ spare) (hts : target ≠ spare) {move : Move}
    (hmove : move ∈ steps disks source target spare) : move.source ≠ move.target := by
  induction disks generalizing source target spare with
  | zero => simp [steps] at hmove
  | succ disks ih =>
    rw [steps, List.mem_append, List.mem_append, List.mem_singleton] at hmove
    rcases hmove with (hleave | rfl) | hfollow
    · exact ih hss hst hts.symm hleave
    · exact hst
    · exact ih hts.symm hss.symm hst.symm hfollow

section Monadic

variable {m : Type → Type} [Monad m] [LawfulMonad m] {ε : Type}

/-- A transfer into a sink that observes nothing records the steps one after the other. -/
theorem transfer_eq_forM (sink : Sink m ε) (silent : ∀ notice, sink.observe notice = pure ())
    (disks : Nat) (source target spare : Peg) :
    transfer sink disks source target spare =
      forM (steps disks source target spare) sink.record := by
  induction disks generalizing source target spare with
  | zero => rfl
  | succ disks ih => simp [steps, transfer, ih, silent]

end Monadic

/-! ### Sinks given by a function -/

variable {σ ε : Type}

/-- The sink that records with the given function and observes nothing. -/
def Sink.ofRecord (record : Move → σ → Except ε Unit × σ) : Sink (StateM σ) ε where
  record := record
  observe _ := pure ()

/-- The sink that takes every move. -/
def Sink.keeping (keep : σ → Move → σ) : Sink (StateM σ) ε :=
  .ofRecord fun move state => (.ok (), keep state move)

/-- Records the moves from left to right, up to the first that is refused. -/
def feed (record : Move → σ → Except ε Unit × σ) : List Move → σ → Except ε Unit × σ
  | [], state => (.ok (), state)
  | move :: rest, state =>
    match record move state with
    | (.ok _, state) => feed record rest state
    | (.error cause, state) => (.error cause, state)

section Feed

variable (record : Move → σ → Except ε Unit × σ)

/-- What follows in a monad of failures and a state runs only after a success. -/
theorem run_bind {α β : Type} (first : ExceptT ε (StateM σ) α)
    (next : α → ExceptT ε (StateM σ) β) (state : σ) :
    (first >>= next).run.run state =
      match first.run.run state with
      | (.ok value, state) => (next value).run.run state
      | (.error cause, state) => (.error cause, state) := by
  change ExceptT.bindCont next (first.run.run state).1 (first.run.run state).2 = _
  rcases first.run.run state with ⟨cause | value, after⟩ <;> rfl

theorem run_forM (moves : List Move) (state : σ) :
    (forM (m := ExceptT ε (StateM σ)) moves record).run.run state = feed record moves state := by
  induction moves generalizing state with
  | nil => rfl
  | cons move rest ih =>
    rw [List.forM_cons, run_bind, feed]
    simp only [ih]
    rcases h : record move state with ⟨cause | _, after⟩ <;> simp only [StateT.run, ExceptT.run, h]

/-- A list that is fed to a sink either is taken as a whole, or falls into the moves before the
first refusal, the move that is refused, and the moves that are never recorded. -/
theorem feed_split (moves : List Move) (state : σ) :
    (∃ after, feed record moves state = (.ok (), after)) ∨
      ∃ taken move rest during cause after, moves = taken ++ move :: rest ∧
        feed record taken state = (.ok (), during) ∧
        record move during = (.error cause, after) ∧
        feed record moves state = (.error cause, after) := by
  induction moves generalizing state with
  | nil => exact .inl ⟨state, rfl⟩
  | cons move rest ih =>
    rcases h : record move state with ⟨cause | _, next⟩
    · exact .inr ⟨[], move, rest, state, cause, next, rfl, rfl, h, by simp only [feed, h]⟩
    · rcases ih next with ⟨after, hall⟩ | ⟨taken, last, rest, during, cause, after, rfl, htaken,
        hlast, hrest⟩
      · exact .inl ⟨after, by simpa only [feed, h] using hall⟩
      · exact .inr ⟨move :: taken, last, rest, during, cause, after, rfl,
          by simpa only [feed, h] using htaken, hlast, by simpa only [feed, h] using hrest⟩

theorem feed_keeping (keep : σ → Move → σ) (moves : List Move) (state : σ) :
    feed (ε := ε) (fun move state => (.ok (), keep state move)) moves state =
      (.ok (), moves.foldl keep state) := by
  induction moves generalizing state with
  | nil => rfl
  | cons move rest ih => exact ih (keep state move)

end Feed

/-! ### The calls that a sink gets -/

section Calls

variable (record : Move → σ → Except ε Unit × σ)

/-- The sink that does what the given function does, and notes something of each call that it gets
and of the state that the call finds. -/
def Sink.auditing {α : Type} (note : Move → σ → α) : Sink (StateM (List α × σ)) ε :=
  .ofRecord fun move (notes, state) =>
    ((record move state).1, notes ++ [note move state], (record move state).2)

/-- The calls that are made while a list of moves is fed to a sink, each with the state that it
finds. One that fails is the last. -/
def callsOf : List Move → σ → List (Move × σ)
  | [], _ => []
  | move :: rest, state =>
    match record move state with
    | (.ok _, next) => (move, state) :: callsOf rest next
    | (.error _, _) => [(move, state)]

/-- Every call is noted, and beside the notes nothing is changed. -/
theorem feed_auditing {α : Type} (note : Move → σ → α) (moves : List Move) (notes : List α)
    (state : σ) :
    feed (Sink.auditing record note).record moves (notes, state) =
      ((feed record moves state).1,
        notes ++ (callsOf record moves state).map (fun call => note call.1 call.2),
        (feed record moves state).2) := by
  induction moves generalizing notes state with
  | nil => rw [callsOf, List.map_nil, List.append_nil]; rfl
  | cons move rest ih =>
    rcases h : record move state with ⟨cause | _, next⟩
    · simp only [feed, callsOf, Sink.auditing, Sink.ofRecord, h, List.map_singleton]
    · have hrest := ih (notes ++ [note move state]) next
      simp only [feed, callsOf, Sink.auditing, Sink.ofRecord, h, List.map_cons] at hrest ⊢
      rw [hrest, List.append_assoc, List.singleton_append]

/-- The moves of the calls come first among those that are fed. -/
theorem map_fst_callsOf_prefix (moves : List Move) (state : σ) :
    (callsOf record moves state).map Prod.fst <+: moves := by
  induction moves generalizing state with
  | nil => exact List.prefix_refl []
  | cons move rest ih =>
    rcases h : record move state with ⟨cause | _, next⟩
    · simp only [callsOf, h]
      exact ⟨rest, rfl⟩
    · simp only [callsOf, h, List.map_cons]
      exact List.cons_prefix_cons.mpr ⟨rfl, ih next⟩

variable {record}

/-- If no call fails, there is one for each move. -/
theorem map_fst_callsOf {moves : List Move} {state after : σ}
    (h : feed record moves state = (.ok (), after)) :
    (callsOf record moves state).map Prod.fst = moves := by
  induction moves generalizing state with
  | nil => rfl
  | cons move rest ih =>
    rw [feed] at h
    split at h
    · rename_i next hmove
      simp only [callsOf, hmove, List.map_cons, ih h]
    · cases h

end Calls

/-! ### Transfers and puzzles -/

section Puzzle

variable (record : Move → σ → Except ε Unit × σ)

theorem transfer_ofRecord (disks : Nat) (source target spare : Peg) (state : σ) :
    (transfer (.ofRecord record) disks source target spare).run.run state =
      feed record (steps disks source target spare) state := by
  rw [transfer_eq_forM _ (fun _ => rfl)]
  exact run_forM record _ state

theorem solve_ofRecord {puzzle : Puzzle} (bound : puzzle.disks ≤ Puzzle.maxDisks) (state : σ) :
    (solve (.ofRecord record) puzzle).run.run state =
      Prod.map (Except.mapError .sink) id (feed record puzzle.steps state) := by
  rw [solve, if_neg (UInt32.not_lt.mpr bound), run_bind, Puzzle.steps, ← transfer_ofRecord]
  rfl

theorem transfer_keeping (keep : σ → Move → σ) (disks : Nat) (source target spare : Peg)
    (state : σ) :
    (transfer (.keeping (ε := ε) keep) disks source target spare).run.run state =
      (.ok (), (steps disks source target spare).foldl keep state) := by
  rw [Sink.keeping, transfer_ofRecord, feed_keeping]

theorem solve_keeping (keep : σ → Move → σ) {puzzle : Puzzle}
    (bound : puzzle.disks ≤ Puzzle.maxDisks) (state : σ) :
    (solve (.keeping (ε := ε) keep) puzzle).run.run state =
      (.ok (), puzzle.steps.foldl keep state) := by
  rw [Sink.keeping, solve_ofRecord _ bound, feed_keeping]
  rfl

theorem solve_ofRecord_of_lt {puzzle : Puzzle} (excess : Puzzle.maxDisks < puzzle.disks)
    (state : σ) :
    (solve (.ofRecord record) puzzle).run.run state =
      (.error (.tooManyDisks puzzle.disks Puzzle.maxDisks), state) := by
  rw [solve, if_pos excess]
  rfl

end Puzzle

/-! ### Lists that collect moves -/

/-- A container that takes every move gets all the steps. -/
theorem solve_keeper (push : Move → σ → σ) {puzzle : Puzzle}
    (bound : puzzle.disks ≤ Puzzle.maxDisks) (kept : σ) :
    (solve (keeper (m := Id) push fun _ => pure ()) puzzle).run.run kept =
      (.ok (), puzzle.steps.foldl (fun kept move => push move kept) kept) :=
  solve_keeping (fun kept move => push move kept) bound kept

/-- A list that collects moves keeps all the steps behind what it has. -/
theorem solve_collector {puzzle : Puzzle} (bound : puzzle.disks ≤ Puzzle.maxDisks)
    (kept : Array Move) :
    (solve (collector (m := Id) fun _ => pure ()) puzzle).run.run kept =
      (.ok (), kept ++ puzzle.steps.toArray) := by
  rw [collector, solve_keeper _ bound, List.foldl_push_eq_append']

namespace Collected

theorem moves_push (move : Move) (collected : Collected) :
    (collected.push move).moves = collected.moves.push move := by
  rcases collected with ⟨moves, room, size_le_room⟩
  rw [push]
  split <;> rfl

/-- However often the list grows, it has all the moves. -/
theorem moves_foldl_push (moves : List Move) (collected : Collected) :
    (moves.foldl (fun kept move => kept.push move) collected).moves =
      collected.moves ++ moves.toArray := by
  induction moves generalizing collected with
  | nil => exact (Array.append_empty).symm
  | cons move rest ih =>
    rw [List.foldl_cons, ih, moves_push]
    simp

end Collected

theorem collect_eq_ok {puzzle : Puzzle} (bound : puzzle.disks ≤ maxCollectedDisks) :
    collect puzzle =
      .ok (puzzle.steps.foldl (fun kept move => kept.push move) (.withRoom puzzle.room)) := by
  have within : puzzle.disks ≤ Puzzle.maxDisks := UInt32.le_trans bound (by decide)
  have solved := solve_keeper Collected.push within (.withRoom puzzle.room)
  rw [collect, collectNoting, if_neg (UInt32.not_lt.mpr bound)]
  change (((solve (keeper (m := Id) Collected.push fun _ => pure ()) puzzle).run.run
    (.withRoom puzzle.room)).1.map fun _ =>
      ((solve (keeper (m := Id) Collected.push fun _ => pure ()) puzzle).run.run
        (.withRoom puzzle.room)).2) = _
  rw [solved]
  rfl

theorem collect_eq_error {puzzle : Puzzle} (excess : maxCollectedDisks < puzzle.disks) :
    collect puzzle = .error (.tooManyDisks puzzle.disks maxCollectedDisks) := by
  rw [collect, collectNoting, if_pos excess]
  rfl

/-- Listing the moves is collecting them. -/
theorem moves_eq_map_collect (puzzle : Puzzle) :
    moves puzzle = (collect puzzle).map Collected.moves :=
  rfl

theorem moves_eq_ok {puzzle : Puzzle} (bound : puzzle.disks ≤ maxCollectedDisks) :
    moves puzzle = .ok puzzle.steps.toArray := by
  rw [moves_eq_map_collect, collect_eq_ok bound]
  refine congrArg Except.ok ((Collected.moves_foldl_push _ _).trans ?_)
  exact Array.empty_append

theorem moves_eq_error {puzzle : Puzzle} (excess : maxCollectedDisks < puzzle.disks) :
    moves puzzle = .error (.tooManyDisks puzzle.disks maxCollectedDisks) := by
  rw [moves_eq_map_collect, collect_eq_error excess]
  rfl

theorem eq_steps_of_moves_eq_ok {puzzle : Puzzle} {listed : Array Move}
    (h : moves puzzle = .ok listed) : listed.toList = puzzle.steps := by
  by_cases excess : maxCollectedDisks < puzzle.disks
  · rw [moves_eq_error excess] at h
    cases h
  · rw [moves_eq_ok (UInt32.not_lt.mp excess)] at h
    cases h
    rfl

/-- The moves that a transfer hands to a list that keeps them all. -/
def transferred (disks : Nat) (source target spare : Peg) : List Move :=
  ((transfer (collector (m := Id) fun _ => pure ()) disks source target spare).run.run #[]).2.toList

theorem transferred_eq_steps (disks : Nat) (source target spare : Peg) :
    transferred disks source target spare = steps disks source target spare := by
  change ((transfer (.keeping Array.push) disks source target spare).run.run #[]).2.toList = _
  rw [transfer_keeping]
  simp

/-- **Solving a puzzle streams its steps.** Up to 64 disks, a puzzle is solved by recording its
steps from left to right up to the first that the sink refuses: either all of them are taken, or
the refusal is reported with its own cause and the sink is left as the refusal left it. Beyond
64 disks the sink is not touched. A list that collects moves therefore gets the steps behind what
it holds, and the moves are listed up to 20 disks. -/
theorem solve_streams_steps (puzzle : Puzzle) :
    (∀ {σ ε : Type} (record : Move → σ → Except ε Unit × σ) (state : σ),
      (puzzle.disks ≤ 64 →
        (solve (.ofRecord record) puzzle).run.run state =
          Prod.map (Except.mapError .sink) id (feed record puzzle.steps state) ∧
        ((∃ after, feed record puzzle.steps state = (.ok (), after) ∧
            (solve (.ofRecord record) puzzle).run.run state = (.ok (), after)) ∨
          ∃ taken move rest during cause after, puzzle.steps = taken ++ move :: rest ∧
            feed record taken state = (.ok (), during) ∧
            record move during = (.error cause, after) ∧
            (solve (.ofRecord record) puzzle).run.run state = (.error (.sink cause), after))) ∧
      (64 < puzzle.disks →
        (solve (.ofRecord record) puzzle).run.run state =
          (.error (.tooManyDisks puzzle.disks 64), state))) ∧
    (puzzle.disks ≤ 64 → ∀ kept,
      (solve (collector (m := Id) fun _ => pure ()) puzzle).run.run kept =
        (.ok (), kept ++ puzzle.steps.toArray)) ∧
    (puzzle.disks ≤ 20 → moves puzzle = .ok puzzle.steps.toArray) ∧
    (20 < puzzle.disks → moves puzzle = .error (.tooManyDisks puzzle.disks 20)) := by
  refine ⟨fun record state => ⟨fun bound => ?_, fun excess => ?_⟩, fun bound kept => ?_,
    moves_eq_ok, moves_eq_error⟩
  · have solved := solve_ofRecord record bound state
    refine ⟨solved, ?_⟩
    rcases feed_split record puzzle.steps state with ⟨after, hall⟩ | ⟨taken, move, rest, during,
      cause, after, hsteps, htaken, hmove, hfed⟩
    · exact .inl ⟨after, hall, by rw [solved, hall]; rfl⟩
    · exact .inr ⟨taken, move, rest, during, cause, after, hsteps, htaken, hmove,
        by rw [solved, hfed]; rfl⟩
  · exact solve_ofRecord_of_lt record excess state
  · exact solve_collector bound kept

/-- A sink with room for two moves ends the solution for five disks at the third. -/
theorem solve_streams_steps_two_of_five :
    (solve (.ofRecord fun _ room => if room = 0 then (.error "full", room) else (.ok (), room - 1))
      ⟨5, .standard⟩).run.run 2 = (.error (.sink "full"), 0) ∧
    (solve (.ofRecord fun _ room => if room = 0 then (.error "full", room) else (.ok (), room - 1))
      ⟨65, .standard⟩).run.run 2 = (.error (.tooManyDisks 65 64), 2) ∧
    (solve (collector (m := Id) fun _ => pure ()) ⟨1, .standard⟩).run.run
        #[⟨Pegs.standard.auxiliary, Pegs.standard.source⟩] =
      (.ok (), #[⟨Pegs.standard.auxiliary, Pegs.standard.source⟩,
        ⟨Pegs.standard.source, Pegs.standard.destination⟩]) ∧
    moves ⟨1, .standard⟩ = .ok #[⟨Pegs.standard.source, Pegs.standard.destination⟩] ∧
    moves ⟨21, .standard⟩ = .error (.tooManyDisks 21 20) :=
  ⟨(((solve_streams_steps ⟨5, .standard⟩).1 _ 2).1 (by decide)).1.trans rfl,
    ((solve_streams_steps ⟨65, .standard⟩).1 _ 2).2 (by decide),
    ((solve_streams_steps ⟨1, .standard⟩).2.1 (by decide) _).trans rfl,
    ((solve_streams_steps ⟨1, .standard⟩).2.2.1 (by decide)).trans rfl,
    (solve_streams_steps ⟨21, .standard⟩).2.2.2 (by decide)⟩

end TowerOfHanoi
