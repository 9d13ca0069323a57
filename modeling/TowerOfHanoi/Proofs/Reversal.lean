import TowerOfHanoi.Proofs.Legality

/-!
# Taking moves back

A legal move can be taken back: the same disk returns to the disks that it lay on before, and all
of these are larger. So a list of legal moves is taken back by the moves the other way, the last
of them first, and on the way back the towers stand as they stood on the way there.

The moves back need not be found by keeping those that were made. For the steps of a transfer they
are the steps of the transfer with source and target exchanged. Of its three parts the first and
the last change places, and each of them is a smaller transfer with its own pegs exchanged: the
first brings the smaller disks from the source to the spare peg, and on the way back it is the last
part that brings them from the spare peg to the source.

## Main definitions

* `Move.back`, `takenBack`: a move the other way, and the moves that take a list of moves back.
* `Puzzle.exchanged`: the puzzle with its source and its destination exchanged.

## Main results

* `takenBack_steps`: the steps of a transfer are taken back by those of the exchanged transfer.
* `Towers.Legal.step?_back`, `Towers.Legal.replay?_takenBack`: a legal move and a list of legal
  moves are taken back.
* `Towers.Legal.replay?_append_takenBack`: what a part of the way back undoes.
* `transferred_takenBack`: the same of the moves that are recorded.
-/

namespace TowerOfHanoi

/-! ### The moves back -/

/-- The move the other way. -/
def Move.back (move : Move) : Move where
  source := move.target
  target := move.source

/-- The moves the other way, the last one first. -/
def takenBack (moves : List Move) : List Move :=
  (moves.map Move.back).reverse

@[simp] theorem takenBack_nil : takenBack [] = [] := rfl

@[simp] theorem takenBack_singleton (move : Move) : takenBack [move] = [move.back] := rfl

@[simp] theorem takenBack_append (first second : List Move) :
    takenBack (first ++ second) = takenBack second ++ takenBack first := by
  simp [takenBack]

@[simp] theorem length_takenBack (moves : List Move) :
    (takenBack moves).length = moves.length := by
  simp [takenBack]

/-- The way back begins by taking back what was done last. -/
theorem take_takenBack (moves : List Move) (made : Nat) :
    (takenBack moves).take (moves.length - made) = takenBack (moves.drop made) := by
  have hparts : takenBack moves = takenBack (moves.drop made) ++ takenBack (moves.take made) := by
    rw [← takenBack_append, List.take_append_drop]
  have hlength : (takenBack (moves.drop made)).length = moves.length - made := by simp
  rw [hparts, List.take_left' hlength]

/-- **The steps of a transfer are taken back by those of the exchanged transfer.** -/
theorem takenBack_steps (disks : Nat) (source target spare : Peg) :
    takenBack (steps disks source target spare) = steps disks target source spare := by
  induction disks generalizing source target spare with
  | zero => rfl
  | succ disks ih =>
    rw [steps, steps, takenBack_append, takenBack_append, takenBack_singleton, ih, ih,
      List.append_assoc]
    rfl

/-! ### The towers on the way back -/

namespace Towers.Legal

variable {towers after : Towers} {moves : List Move}

/-- **A legal move is taken back.** -/
theorem step?_back (hlegal : towers.Legal) {move : Move} (h : towers.step? move = some after) :
    after.step? move.back = some towers := by
  by_cases hself : move.source = move.target
  · -- Such a move changes nothing, and is its own way back.
    have hback : move.back = move := by
      cases move
      simp_all [Move.back]
    obtain rfl := eq_of_step?_self hself h
    rwa [hback]
  · obtain ⟨disk, below, hsource, -, rfl⟩ := step?_eq_some_iff.mp h
    rw [Function.update_of_ne (Ne.symm hself)]
    have hlt : ∀ other ∈ below, disk < other :=
      (List.pairwise_cons.mp (hsource ▸ hlegal move.source)).1
    have hleft : Function.update (Function.update towers move.source below) move.target
        (disk :: towers move.target) move.source = below := by
      rw [Function.update_of_ne hself, Function.update_self]
    rw [Move.back, step?_of_lt (Ne.symm hself) (Function.update_self ..) (by rwa [hleft]), hleft,
      ← hsource, Function.update_idem, Function.update_comm hself, Function.update_idem,
      Function.update_eq_self, Function.update_eq_self]

/-- **Legal moves are taken back**, the last one first. -/
theorem replay?_takenBack (hlegal : towers.Legal) (h : towers.replay? moves = some after) :
    after.replay? (takenBack moves) = some towers := by
  induction moves generalizing towers with
  | nil => rw [takenBack_nil, replay?_nil, Option.some.inj h]
  | cons move rest ih =>
    obtain ⟨next, hmove, hrest⟩ := Option.bind_eq_some_iff.mp h
    have hnext := ih (hlegal.step? hmove) hrest
    rw [← List.singleton_append, takenBack_append, replay?_append, hnext, Option.bind_some,
      takenBack_singleton, replay?_cons, hlegal.step?_back hmove]
    rfl

/-- A part of the way back undoes the moves that were made last. -/
theorem replay?_append_takenBack (hlegal : towers.Legal) {made undone : List Move}
    (h : towers.replay? (made ++ undone) = some after) :
    ∃ during, towers.replay? made = some during ∧
      towers.replay? (made ++ undone ++ takenBack undone) = some during := by
  have hparts := h
  rw [replay?_append] at hparts
  obtain ⟨during, hmade, hundone⟩ := Option.bind_eq_some_iff.mp hparts
  refine ⟨during, hmade, ?_⟩
  rw [replay?_append, h, Option.bind_some, (hlegal.replay? hmade).replay?_takenBack hundone]

/-- On the way back the towers stand as they stood on the way there. -/
theorem exists_replay?_take (hlegal : towers.Legal) (h : towers.replay? moves = some after)
    (made : Nat) :
    ∃ during, towers.replay? (moves.take made) = some during ∧
      towers.replay? (moves ++ (takenBack moves).take (moves.length - made)) = some during := by
  rw [← List.take_append_drop made moves] at h
  have hundone := hlegal.replay?_append_takenBack h
  rwa [List.take_append_drop, ← take_takenBack] at hundone

end Towers.Legal

/-- The steps of a transfer lead through some towers, and those of the exchanged transfer lead back
through the same towers. -/
theorem Towers.replay?_steps_back {disks : Nat} {source target spare : Peg} (hst : source ≠ target)
    (hss : source ≠ spare) (hts : target ≠ spare) {towers : Towers} (hlegal : towers.Legal)
    (hsmallest : towers.SmallestOn disks source target spare) :
    (∀ made, ∃ during,
      towers.replay? ((steps disks source target spare).take made) = some during ∧
      towers.replay? (steps disks source target spare ++
        (steps disks target source spare).take (2 ^ disks - 1 - made)) = some during) ∧
    towers.replay? (steps disks source target spare ++ steps disks target source spare) =
      some towers := by
  have hreplay := replay?_steps hst hss hts hlegal hsmallest
  rw [← takenBack_steps disks source target spare, ← length_steps disks source target spare]
  constructor
  · exact hlegal.exists_replay?_take hreplay
  · rw [replay?_append, hreplay, Option.bind_some, hlegal.replay?_takenBack hreplay]

/-! ### The moves that are recorded -/

/-- The puzzle with its source and its destination exchanged. -/
def Puzzle.exchanged (puzzle : Puzzle) : Puzzle where
  disks := puzzle.disks
  pegs := ⟨puzzle.pegs.destination, puzzle.pegs.source, puzzle.pegs.auxiliary⟩

/-- **The solution of the exchanged puzzle takes a solution back.** For any three pegs, the moves
that a transfer records are, the other way and the last one first, those that the exchanged transfer
records. The same holds of a puzzle and the exchanged one, wherever their moves are collected. Let
the pegs be different, and let the smallest disks be on top of the source in legal towers. When all
moves of the transfer have been made, and then the moves of the exchanged transfer up to some point,
the towers stand as they stood when as many moves of the transfer were still to come. In the end
they stand as in the beginning. -/
theorem transferred_takenBack :
    (∀ (disks : Nat) (source target spare : Peg),
      takenBack (transferred disks source target spare) =
        transferred disks target source spare) ∧
    (∀ (disks : Nat) (source target spare : Peg) (towers : Towers),
      source ≠ target → source ≠ spare → target ≠ spare → towers.Legal →
      towers.SmallestOn disks source target spare →
      (∀ made, ∃ during,
        towers.replay? ((transferred disks source target spare).take made) = some during ∧
        towers.replay? (transferred disks source target spare ++
          (transferred disks target source spare).take (2 ^ disks - 1 - made)) = some during) ∧
      towers.replay? (transferred disks source target spare ++
        transferred disks target source spare) = some towers) ∧
    ∀ puzzle : Puzzle, puzzle.disks ≤ 64 → ∃ there back : Array Move,
      (solve (collector (m := Id) fun _ => pure ()) puzzle).run.run #[] = (.ok (), there) ∧
      (solve (collector (m := Id) fun _ => pure ()) puzzle.exchanged).run.run #[] =
        (.ok (), back) ∧
      (puzzle.disks ≤ 20 → moves puzzle = .ok there ∧ moves puzzle.exchanged = .ok back) ∧
      takenBack there.toList = back.toList ∧
      (puzzle.pegs.Distinct →
        (Towers.single puzzle.disks.toNat puzzle.pegs.source).replay? there.toList =
          some (Towers.single puzzle.disks.toNat puzzle.pegs.destination) ∧
        (∀ made, ∃ during,
          (Towers.single puzzle.disks.toNat puzzle.pegs.source).replay?
            (there.toList.take made) = some during ∧
          (Towers.single puzzle.disks.toNat puzzle.pegs.source).replay?
            (there.toList ++ back.toList.take (there.size - made)) = some during) ∧
        (Towers.single puzzle.disks.toNat puzzle.pegs.source).replay?
          (there.toList ++ back.toList) =
            some (Towers.single puzzle.disks.toNat puzzle.pegs.source)) := by
  simp only [transferred_eq_steps]
  refine ⟨takenBack_steps, fun disks source target spare towers hst hss hts hlegal hsmallest =>
    Towers.replay?_steps_back hst hss hts hlegal hsmallest, fun puzzle bound => ?_⟩
  refine ⟨puzzle.steps.toArray, puzzle.exchanged.steps.toArray, ?_, ?_,
    fun few => ⟨moves_eq_ok few, moves_eq_ok few⟩, takenBack_steps _ _ _ _, ?_⟩
  · rw [solve_collector bound, Array.empty_append]
  · have hexchanged : puzzle.exchanged.disks ≤ Puzzle.maxDisks := bound
    rw [solve_collector hexchanged, Array.empty_append]
  · rintro ⟨hsd, hsa, hda⟩
    obtain ⟨hduring, hend⟩ := Towers.replay?_steps_back hsd hsa hda
      (Towers.legal_single puzzle.disks.toNat puzzle.pegs.source)
      (Towers.smallestOn_single _ hsd hsa)
    rw [← length_steps _ puzzle.pegs.source puzzle.pegs.destination puzzle.pegs.auxiliary]
      at hduring
    exact ⟨Towers.replay?_steps_single _ _ _ _ hsd hsa hda, hduring, hend⟩

/-- Two disks have been carried away from a larger one, past the largest one on the spare peg. When
one move of the way back is still to come, the smallest disk stands on the largest. Three disks are
back on their peg in the end. Moves between pegs that are not different are taken back as well. -/
theorem transferred_takenBack_two_of_four :
    (∃ towers during : Towers, towers Pegs.standard.source = [1, 2, 3] ∧
      towers Pegs.standard.destination = [] ∧ towers Pegs.standard.auxiliary = [4] ∧
      towers.replay?
          (transferred 2 Pegs.standard.source Pegs.standard.destination Pegs.standard.auxiliary ++
            (transferred 2 Pegs.standard.destination Pegs.standard.source
              Pegs.standard.auxiliary).take 2) = some during ∧
      during Pegs.standard.source = [2, 3] ∧ during Pegs.standard.destination = [] ∧
      during Pegs.standard.auxiliary = [1, 4]) ∧
    (∃ there back, moves ⟨3, .standard⟩ = .ok there ∧
      moves (Puzzle.exchanged ⟨3, .standard⟩) = .ok back ∧ takenBack there.toList = back.toList ∧
      (Towers.single 3 Pegs.standard.source).replay? (there.toList ++ back.toList) =
        some (Towers.single 3 Pegs.standard.source)) ∧
    takenBack (transferred 2 Pegs.standard.source Pegs.standard.source Pegs.standard.auxiliary) =
      transferred 2 Pegs.standard.source Pegs.standard.source Pegs.standard.auxiliary := by
  refine ⟨?_, ?_, transferred_takenBack.1 2 _ _ _⟩
  · have hlegal : Towers.Legal (Function.update (Towers.single 3 Pegs.standard.source)
        Pegs.standard.auxiliary [4]) :=
      (Towers.legal_single 3 _).update _ (by decide)
    have hlt : ∀ small ∈ [1, 2], ∀ large, large ∈ [] ∨ large ∈ [4] → small < large := by
      simp
    obtain ⟨during, hthere, hback⟩ := (transferred_takenBack.2.1 2 Pegs.standard.source
      Pegs.standard.destination Pegs.standard.auxiliary _ (by decide) (by decide) (by decide)
      hlegal ⟨by decide, hlt⟩).1 1
    cases hthere
    exact ⟨_, _, rfl, rfl, rfl, hback, rfl, rfl, rfl⟩
  · obtain ⟨there, back, -, -, hmoves, htaken, htowers⟩ :=
      transferred_takenBack.2.2 ⟨3, .standard⟩ (by decide)
    obtain ⟨hthere, hback⟩ := hmoves (by decide)
    exact ⟨there, back, hthere, hback, htaken, (htowers (by decide)).2.2⟩

end TowerOfHanoi
