import TowerOfHanoi.CommandLine.Run

/-!
# Observation changes nothing

While it works, the program tells an observer what it does. An observer may keep a state of its own,
beside that of a sink or alone. Here it is shown that this state can be left out: what is read,
found or recorded is the same if nobody observes, and all that becomes of the state is what the
observer makes of notices. A program that is observed and the one that is not are related, as values
are by being equal, and the relation goes from the parts of a program to the whole. So one law for
each function is enough, whatever the observer and the sink are.

## Main definitions

* `Simulation`: a relation between the programs of two monads that is kept by sequences.
* `afterNotices`: what an observer makes of notices.
* `Simulation.forget`, `Simulation.forgetBeside`: an observer's state is left out.

## Main results

* `Simulation.Follows.transfer`, `Simulation.Follows.solve`: transfers and solutions into sinks of
  which one follows the other.
* `CommandLine.Options.run_puzzleNoting`, `Solution.run_ofPuzzleNoting`,
  `Printer.run_solve_sinkNoting`: reading, listing and printing come to the same unobserved.
-/

namespace TowerOfHanoi

/-- A relation between the programs of two monads that holds of equal values and is kept when
programs are put in sequence. -/
structure Simulation (m n : Type → Type) [Monad m] [Monad n] where
  /-- A program of the first monad is followed by one of the second. -/
  Rel : {α : Type} → m α → n α → Prop
  rel_pure : ∀ {α : Type} (value : α), Rel (pure value) (pure value)
  rel_bind : ∀ {α β : Type} {first : m α} {first' : n α} {next : α → m β} {next' : α → n β},
    Rel first first' → (∀ value, Rel (next value) (next' value)) →
      Rel (first >>= next) (first' >>= next')

namespace Simulation

/-! ### Monads over monads -/

section Lifting

variable {m n : Type → Type} [Monad m] [Monad n] (sim : Simulation m n)

theorem rel_map [LawfulMonad m] [LawfulMonad n] {α β : Type} (f : α → β) {program : m α}
    {program' : n α} (h : sim.Rel program program') : sim.Rel (f <$> program) (f <$> program') := by
  rw [map_eq_pure_bind, map_eq_pure_bind]
  exact sim.rel_bind h fun value => sim.rel_pure (f value)

/-- Failures come at the same places. -/
def exceptT (ε : Type) : Simulation (ExceptT ε m) (ExceptT ε n) where
  Rel program program' := sim.Rel program.run program'.run
  rel_pure value := sim.rel_pure (Except.ok value)
  rel_bind h hnext := by
    refine sim.rel_bind h fun result => ?_
    cases result with
    | ok value => exact hnext value
    | error cause => exact sim.rel_pure (Except.error cause)

/-- A check succeeds or fails the same everywhere. -/
theorem rel_check {ε α : Type} (check : Except ε α) :
    (sim.exceptT ε).Rel (liftM check) (liftM check) :=
  sim.rel_pure check

/-- The programs have the same state. -/
def stateT (σ : Type) : Simulation (StateT σ m) (StateT σ n) where
  Rel program program' := ∀ state, sim.Rel (program.run state) (program'.run state)
  rel_pure value state := sim.rel_pure (value, state)
  rel_bind h hnext state := sim.rel_bind (h state) fun answer => hnext answer.1 answer.2

end Lifting

end Simulation

/-! ### States that are left out -/

/-- What becomes of an observer's state when the observer is told notices, one after the other. -/
def afterNotices {ω : Type} (observe : Notice → ω → ω) (seen : ω) (notices : List Notice) : ω :=
  notices.foldl (fun seen notice => observe notice seen) seen

theorem afterNotices_append {ω : Type} (observe : Notice → ω → ω) (seen : ω)
    (notices more : List Notice) : afterNotices observe seen (notices ++ more) =
      afterNotices observe (afterNotices observe seen notices) more :=
  List.foldl_append

namespace Simulation

section Forgetting

variable {ω : Type} (observe : Notice → ω → ω)

/-- The values are the same without the state of the first program, an observer's. -/
def forget : Simulation (StateM ω) Id where
  Rel program program' := ∀ seen, ∃ notices,
    program.run seen = (program'.run, afterNotices observe seen notices)
  rel_pure _ _ := ⟨[], rfl⟩
  rel_bind {_ _ first first' next next'} h hnext seen := by
    obtain ⟨notices, hfirst⟩ := h seen
    obtain ⟨more, hrest⟩ := hnext first'.run (afterNotices observe seen notices)
    refine ⟨notices ++ more, ?_⟩
    change (next (first.run seen).1).run (first.run seen).2 = _
    rw [hfirst, hrest, afterNotices_append]
    rfl

/-- The values and the first part of the state are the same without the second, an observer's. -/
def forgetBeside (σ : Type) : Simulation (StateM (σ × ω)) (StateM σ) where
  Rel program program' := ∀ state seen, ∃ notices, program.run (state, seen) =
    ((program'.run state).1, (program'.run state).2, afterNotices observe seen notices)
  rel_pure _ _ _ := ⟨[], rfl⟩
  rel_bind {_ _ first first' next next'} h hnext state seen := by
    obtain ⟨notices, hfirst⟩ := h state seen
    obtain ⟨more, hrest⟩ := hnext (first'.run state).1 (first'.run state).2
      (afterNotices observe seen notices)
    refine ⟨notices ++ more, ?_⟩
    change (next (first.run (state, seen)).1).run (first.run (state, seen)).2 = _
    rw [hfirst, hrest, afterNotices_append]
    rfl

end Forgetting

/-! ### Transfers and solutions -/

section Sink

variable {m n : Type → Type} [Monad m] [LawfulMonad m] [Monad n] [LawfulMonad n]
variable (sim : Simulation m n) {ε : Type}

/-- One sink does what another does. -/
structure Follows (sink : Sink m ε) (other : Sink n ε) : Prop where
  record : ∀ move, sim.Rel (sink.record move).run (other.record move).run
  observe : ∀ notice, sim.Rel (sink.observe notice) (other.observe notice)

variable {sim} {sink : Sink m ε} {other : Sink n ε}

/-- Observing is no failure, of whatever kind failures are. -/
theorem Follows.lift_observe (hfollows : sim.Follows sink other) {ε' : Type} (notice : Notice) :
    (sim.exceptT ε').Rel (ExceptT.lift (sink.observe notice))
      (ExceptT.lift (other.observe notice)) :=
  sim.rel_map Except.ok (hfollows.observe notice)

theorem Follows.transfer (hfollows : sim.Follows sink other) (disks : Nat)
    (source target spare : Peg) :
    (sim.exceptT ε).Rel (transfer sink disks source target spare)
      (transfer other disks source target spare) := by
  induction disks generalizing source target spare with
  | zero => exact (sim.exceptT ε).rel_pure ()
  | succ disks ih =>
    refine (sim.exceptT ε).rel_bind (hfollows.lift_observe _) fun _ => ?_
    refine (sim.exceptT ε).rel_bind (ih source spare target) fun _ => ?_
    refine (sim.exceptT ε).rel_bind (hfollows.record _) fun _ => ?_
    exact ih spare target source

theorem Follows.solve (hfollows : sim.Follows sink other) (puzzle : Puzzle) :
    (sim.exceptT (SolveError ε)).Rel (solve sink puzzle) (solve other puzzle) := by
  unfold TowerOfHanoi.solve
  split
  · exact sim.rel_pure (Except.error (SolveError.tooManyDisks puzzle.disks Puzzle.maxDisks))
  · refine (sim.exceptT (SolveError ε)).rel_bind (hfollows.lift_observe _) fun _ => ?_
    exact sim.rel_map (Except.mapError SolveError.sink) (hfollows.transfer _ _ _ _)

end Sink

/-! ### Observers -/

section Observe

variable {m n : Type → Type} [Monad m] [LawfulMonad m] [Monad n] [LawfulMonad n]
variable (sim : Simulation m n) {observe : Notice → m Unit} {observe' : Notice → n Unit}

variable (hobserve : ∀ notice, sim.Rel (observe notice) (observe' notice))

include hobserve

theorem parseNoting (text : String) :
    sim.Rel (Puzzle.parseNoting observe text) (Puzzle.parseNoting observe' text) := by
  unfold Puzzle.parseNoting
  split
  · exact sim.rel_pure (Except.error InputError.missingDisks)
  · refine (sim.exceptT InputError).rel_bind (sim.rel_check _) fun disks => ?_
    refine (sim.exceptT InputError).rel_bind (sim.rel_check _) fun pegs => ?_
    refine (sim.exceptT InputError).rel_bind ?_ fun _ => (sim.exceptT InputError).rel_pure _
    exact sim.rel_map Except.ok (hobserve (.parsed ⟨disks, pegs⟩))

theorem readFromNoting (reader : List Delivery) :
    sim.Rel (Puzzle.readFromNoting observe reader) (Puzzle.readFromNoting observe' reader) := by
  unfold Puzzle.readFromNoting
  split
  · exact sim.parseNoting hobserve _
  · exact sim.rel_pure _

theorem puzzleNoting (options : CommandLine.Options) (input : List Delivery) :
    sim.Rel (options.puzzleNoting observe input) (options.puzzleNoting observe' input) := by
  refine sim.rel_bind ?_ fun base => sim.rel_pure (base.bind options.replaceIn)
  unfold CommandLine.Options.baseNoting
  split
  · exact sim.rel_pure _
  · exact sim.rel_bind (sim.readFromNoting hobserve input) fun read =>
      sim.rel_pure (read.mapError CommandLine.Failure.input)

theorem keeper_follows {σ : Type} (push : Move → σ → σ) :
    (sim.stateT σ).Follows (keeper push observe) (keeper push observe') where
  record move := (sim.stateT σ).rel_map Except.ok fun kept => sim.rel_pure ((), push move kept)
  observe notice kept := sim.rel_bind (hobserve notice) fun _ => sim.rel_pure ((), kept)

theorem collectNoting (puzzle : Puzzle) :
    sim.Rel (collectNoting observe puzzle) (collectNoting observe' puzzle) := by
  unfold TowerOfHanoi.collectNoting
  split
  · exact sim.rel_pure _
  · refine sim.rel_bind ((sim.keeper_follows hobserve Collected.push).solve puzzle _)
      fun answer => ?_
    exact sim.rel_pure (answer.1.map fun _ => answer.2)

theorem movesNoting (puzzle : Puzzle) :
    sim.Rel (movesNoting observe puzzle) (movesNoting observe' puzzle) :=
  sim.rel_bind (sim.collectNoting hobserve puzzle) fun collected =>
    sim.rel_pure (collected.map Collected.moves)

theorem ofPuzzleNoting (puzzle : Puzzle) :
    sim.Rel (Solution.ofPuzzleNoting observe puzzle) (Solution.ofPuzzleNoting observe' puzzle) :=
  sim.rel_bind (sim.movesNoting hobserve puzzle) fun moves =>
    sim.rel_pure (moves.map (Solution.ofMoves puzzle))

end Observe

end Simulation

/-! ### Observers with a state -/

section State

variable {ω : Type} (observe : Notice → ω → ω) (seen : ω)

/-- An observer's state is left out of the program that only tells the observer. -/
theorem Simulation.forget_observe (notice : Notice) :
    (Simulation.forget observe).Rel (modify (observe notice)) (pure () : Id Unit) :=
  fun _ => ⟨[notice], rfl⟩

theorem Solution.run_ofPuzzleNoting (puzzle : Puzzle) : ∃ notices,
    (ofPuzzleNoting (fun notice => modify (observe notice)) puzzle : StateM ω _).run seen =
      (ofPuzzle puzzle, afterNotices observe seen notices) :=
  (Simulation.forget observe).ofPuzzleNoting (Simulation.forget_observe observe) puzzle seen

theorem CommandLine.Options.run_puzzleNoting (options : Options) (input : List Delivery) :
    ∃ notices,
      (options.puzzleNoting (fun notice => modify (observe notice)) input : StateM ω _).run seen =
        (options.puzzle input, afterNotices observe seen notices) :=
  (Simulation.forget observe).puzzleNoting (Simulation.forget_observe observe) options input seen

/-- A printer with an observer beside it ends like the printer alone. -/
theorem Printer.run_solve_sinkNoting {δ : Type} [Device δ] (puzzle : Puzzle)
    (printer : Printer δ) :
    ∃ notices, (TowerOfHanoi.solve (Printer.sinkNoting observe) puzzle).run.run (printer, seen) =
      (((Printer.solve puzzle).run.run printer).1, ((Printer.solve puzzle).run.run printer).2,
        afterNotices observe seen notices) := by
  have hfollows : (Simulation.forgetBeside observe (Printer δ)).Follows
      (Printer.sinkNoting observe) Printer.sink :=
    ⟨fun _ _ _ => ⟨[], rfl⟩, fun notice _ _ => ⟨[notice], rfl⟩⟩
  exact hfollows.solve puzzle printer seen

end State

end TowerOfHanoi
