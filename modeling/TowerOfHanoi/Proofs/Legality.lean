import TowerOfHanoi.Proofs.Streaming
import TowerOfHanoi.Proofs.Towers

/-!
# A transfer moves its disks and no others

The moves of a transfer are legal wherever its disks are the smallest of all: larger disks may
lie below them and on the other two pegs, and each of them is in the end where it was. This is
what the recursion needs of itself, since the smaller towers are moved while the largest disk
of the tower lies below them or on another peg.

## Main definitions

* `Towers.SmallestOn`: the smallest disks of all are those on top of one peg.
* `Towers.carry`: the towers with the topmost disks of one peg put on another in their order.

## Main results

* `Towers.replay?_steps`: the steps of a transfer carry the smallest disks to their target.
* `transfer_carries_smallest`: the same of the moves that a transfer records, and of puzzles.
-/

namespace TowerOfHanoi

namespace Towers

/-- The smallest disks on three pegs, `disks` in number, are exactly the topmost ones of
`source`. Among the disks of `source` itself, the topmost ones are the smallest in all legal
towers. -/
structure SmallestOn (towers : Towers) (disks : Nat) (source target spare : Peg) : Prop where
  /-- There are that many disks on `source`. -/
  le_height : disks ≤ (towers source).length
  /-- The disks on the other two pegs are larger. -/
  lt_other : ∀ small ∈ (towers source).take disks, ∀ large,
    large ∈ towers target ∨ large ∈ towers spare → small < large

/-- The towers with the topmost disks of `source` put on `target` in their order. -/
def carry (towers : Towers) (disks : Nat) (source target : Peg) : Towers :=
  Function.update (Function.update towers source ((towers source).drop disks)) target
    ((towers source).take disks ++ towers target)

variable {towers : Towers} {disks : Nat} {source target spare : Peg}

theorem carry_source (hst : source ≠ target) :
    towers.carry disks source target source = (towers source).drop disks := by
  rw [carry, Function.update_of_ne hst, Function.update_self]

theorem carry_target :
    towers.carry disks source target target = (towers source).take disks ++ towers target := by
  rw [carry, Function.update_self]

theorem carry_of_ne {peg : Peg} (hsource : peg ≠ source) (htarget : peg ≠ target) :
    towers.carry disks source target peg = towers peg := by
  rw [carry, Function.update_of_ne htarget, Function.update_of_ne hsource]

/-- No disks are carried by changing nothing. -/
theorem carry_zero : towers.carry 0 source target = towers := by
  rw [carry, List.drop_zero, List.take_zero, List.nil_append, Function.update_eq_self,
    Function.update_eq_self]

/-- One disk more is carried by carrying the smaller disks to the spare peg and back from there,
and the disk below them in between. -/
theorem carry_succ (hst : source ≠ target) (hss : source ≠ spare) (hts : target ≠ spare)
    (height : disks ≤ (towers source).length) :
    ((towers.carry disks source spare).carry 1 source target).carry disks spare target =
      towers.carry (disks + 1) source target := by
  have hlength : ((towers source).take disks).length = disks := List.length_take_of_le height
  funext peg
  by_cases htarget : peg = target
  · subst htarget
    rw [carry_target, carry_target, carry_target, carry_of_ne hss.symm hts.symm, carry_target,
      carry_source hss, carry_of_ne hst.symm hts, List.take_left' hlength, List.take_add,
      List.append_assoc]
  · by_cases hspare : peg = spare
    · subst hspare
      rw [carry_source hts.symm, carry_of_ne hss.symm hts.symm, carry_target,
        List.drop_left' hlength, carry_of_ne hss.symm htarget]
    · by_cases hsource : peg = source
      · subst hsource
        rw [carry_of_ne hss hst, carry_source hst, carry_source hss, carry_source hst,
          List.drop_drop]
      · rw [carry_of_ne hspare htarget, carry_of_ne hsource htarget, carry_of_ne hsource hspare,
          carry_of_ne hsource htarget]

/-- A legal move carries one disk. -/
theorem step?_eq_carry (hst : source ≠ target) {disk : Nat} {below : List Nat}
    (hsource : towers source = disk :: below) (hlt : ∀ other ∈ towers target, disk < other) :
    towers.step? ⟨source, target⟩ = some (towers.carry 1 source target) := by
  rw [step?_of_lt hst hsource hlt, carry, hsource]
  rfl

/-! ### The three parts of a transfer -/

namespace SmallestOn

/-- The disk below the smaller ones is the last of those to be moved. -/
theorem exists_largest (hsmallest : towers.SmallestOn (disks + 1) source target spare) :
    ∃ largest below, (towers source).drop disks = largest :: below ∧
      (towers source).take (disks + 1) = (towers source).take disks ++ [largest] := by
  have height := hsmallest.le_height
  obtain ⟨largest, below, hbelow⟩ : ∃ largest below,
      (towers source).drop disks = largest :: below :=
    List.exists_cons_of_length_pos (by rw [List.length_drop]; omega)
  refine ⟨largest, below, hbelow, ?_⟩
  rw [List.take_add, hbelow, List.take_one, List.head?_cons, Option.toList_some]

/-- First the smaller disks leave the largest one and go to the spare peg. -/
theorem leave (hsmallest : towers.SmallestOn (disks + 1) source target spare) :
    towers.SmallestOn disks source spare target where
  le_height := Nat.le_of_succ_le hsmallest.le_height
  lt_other small hsmall large hlarge :=
    hsmallest.lt_other small ((List.take_sublist_take_left (Nat.le_succ disks)).mem hsmall) large
      hlarge.symm

/-- Then the largest disk goes to the target. -/
theorem cross (hst : source ≠ target) (hss : source ≠ spare) (hts : target ≠ spare)
    (hsmallest : towers.SmallestOn (disks + 1) source target spare) :
    (towers.carry disks source spare).step? ⟨source, target⟩ =
      some ((towers.carry disks source spare).carry 1 source target) := by
  obtain ⟨largest, below, hbelow, htake⟩ := hsmallest.exists_largest
  refine step?_eq_carry hst ((carry_source hss).trans hbelow) fun other hother => ?_
  rw [carry_of_ne hst.symm hts] at hother
  exact hsmallest.lt_other largest (by simp [htake]) other (.inl hother)

/-- At last the smaller disks follow it from the spare peg. -/
theorem follow (hst : source ≠ target) (hss : source ≠ spare) (hts : target ≠ spare)
    (hlegal : towers.Legal) (hsmallest : towers.SmallestOn (disks + 1) source target spare) :
    ((towers.carry disks source spare).carry 1 source target).SmallestOn disks spare target
      source := by
  obtain ⟨largest, below, hbelow, htake⟩ := hsmallest.exists_largest
  have hlength : ((towers source).take disks).length = disks :=
    List.length_take_of_le hsmallest.leave.le_height
  have hspare : (towers.carry disks source spare).carry 1 source target spare =
      (towers source).take disks ++ towers spare := by
    rw [carry_of_ne hss.symm hts.symm, carry_target]
  have htarget : (towers.carry disks source spare).carry 1 source target target =
      largest :: towers target := by
    rw [carry_target, carry_source hss, hbelow, carry_of_ne hst.symm hts]
    rfl
  have hsource : (towers.carry disks source spare).carry 1 source target source = below := by
    rw [carry_source hst, carry_source hss, hbelow]
    rfl
  have hsorted : ((towers source).take disks ++ largest :: below).Pairwise (· < ·) := by
    rw [← hbelow, List.take_append_drop]
    exact hlegal source
  obtain ⟨-, -, hlt⟩ := List.pairwise_append.mp hsorted
  refine ⟨by rw [hspare, List.length_append, hlength]; omega, fun small hsmall large hlarge => ?_⟩
  rw [hspare, List.take_left' hlength] at hsmall
  rw [htarget, hsource, List.mem_cons] at hlarge
  rcases hlarge with (rfl | htarget) | hbelow
  · exact hlt small hsmall large List.mem_cons_self
  · exact hsmallest.leave.lt_other small hsmall large (.inr htarget)
  · exact hlt small hsmall large (List.mem_cons_of_mem _ hbelow)

end SmallestOn

/-- **The steps of a transfer carry the smallest disks to their target**, whatever lies below
them, on the target and on the spare peg. -/
theorem replay?_steps (hst : source ≠ target) (hss : source ≠ spare) (hts : target ≠ spare)
    (hlegal : towers.Legal) (hsmallest : towers.SmallestOn disks source target spare) :
    towers.replay? (steps disks source target spare) = some (towers.carry disks source target) := by
  induction disks generalizing source target spare towers with
  | zero => rw [carry_zero, steps, replay?_nil]
  | succ disks ih =>
    have hleave := ih hss hst hts.symm hlegal hsmallest.leave
    have hcross := hsmallest.cross hst hss hts
    have hcrossed := (hlegal.replay? hleave).step? hcross
    have hfollow := ih hts.symm hss.symm hst.symm hcrossed (hsmallest.follow hst hss hts hlegal)
    rw [steps, replay?_append, replay?_append, hleave, Option.bind_some, replay?_cons, hcross,
      Option.bind_some, replay?_nil, Option.bind_some, hfollow,
      carry_succ hst hss hts hsmallest.leave.le_height]

/-! ### One tower and nothing else -/

theorem smallestOn_single (disks : Nat) (hst : source ≠ target) (hss : source ≠ spare) :
    (single disks source).SmallestOn disks source target spare where
  le_height := by rw [single_self, List.length_range']
  lt_other small _ large hlarge := by
    rw [single_of_ne disks hst.symm, single_of_ne disks hss.symm] at hlarge
    simp at hlarge

/-- A whole tower is carried. -/
theorem carry_single (disks : Nat) (hst : source ≠ target) :
    (single disks source).carry disks source target = single disks target := by
  have hlength : (List.range' 1 disks).length = disks := List.length_range'
  rw [carry, single_self, single_of_ne disks hst.symm, List.drop_of_length_le hlength.le,
    List.take_of_length_le hlength.le, List.append_nil]
  have hempty : Function.update (fun _ : Peg => ([] : List Nat)) source [] = fun _ => [] :=
    Function.update_eq_self source _
  rw [single, Function.update_idem, hempty, single]

/-- The steps of a transfer take a tower from its source to its target. -/
theorem replay?_steps_single (disks : Nat) (source target spare : Peg) (hst : source ≠ target)
    (hss : source ≠ spare) (hts : target ≠ spare) :
    (single disks source).replay? (steps disks source target spare) =
      some (single disks target) := by
  rw [replay?_steps hst hss hts (legal_single disks source) (smallestOn_single disks hst hss),
    carry_single disks hst]

end Towers

/-! ### The moves that are recorded -/

/-- **A transfer moves the smallest disks legally and nothing else.** In all legal towers whose
smallest disks are on top of the source, the moves that a sink is given never fail: each of them
leaves its peg and lifts a disk onto nothing or onto a larger disk. In the end the disks lie on
the target in their order, and all others where they were. So a puzzle that is solved, or whose
moves are listed, has its tower taken from the source to the destination. -/
theorem transfer_carries_smallest :
    (∀ (disks : Nat) (source target spare : Peg) (towers : Towers),
      source ≠ target → source ≠ spare → target ≠ spare → towers.Legal →
      towers.SmallestOn disks source target spare →
      (∀ {σ ε : Type} (keep : σ → Move → σ) (state : σ),
        (transfer (.keeping (ε := ε) keep) disks source target spare).run.run state =
          (.ok (), (steps disks source target spare).foldl keep state)) ∧
      (∀ move ∈ steps disks source target spare, move.source ≠ move.target) ∧
      ∃ after, towers.replay? (steps disks source target spare) = some after ∧ after.Legal ∧
        after source = (towers source).drop disks ∧
        after target = (towers source).take disks ++ towers target ∧
        ∀ peg, peg ≠ source → peg ≠ target → after peg = towers peg) ∧
    ∀ puzzle : Puzzle, puzzle.pegs.Distinct →
      (puzzle.disks ≤ 64 → ∀ {σ ε : Type} (keep : σ → Move → σ) (state : σ),
        (solve (.keeping (ε := ε) keep) puzzle).run.run state =
          (.ok (), puzzle.steps.foldl keep state)) ∧
      (∀ listed, moves puzzle = .ok listed → listed.toList = puzzle.steps) ∧
      (Towers.single puzzle.disks.toNat puzzle.pegs.source).replay? puzzle.steps =
        some (Towers.single puzzle.disks.toNat puzzle.pegs.destination) := by
  refine ⟨fun disks source target spare towers hst hss hts hlegal hsmallest =>
    ⟨fun keep state => transfer_keeping keep disks source target spare state,
      fun move hmove => source_ne_target_of_mem_steps hst hss hts hmove, ?_⟩, ?_⟩
  · have hreplay := Towers.replay?_steps hst hss hts hlegal hsmallest
    exact ⟨_, hreplay, hlegal.replay? hreplay, Towers.carry_source hst, Towers.carry_target,
      fun peg => Towers.carry_of_ne⟩
  · rintro puzzle ⟨hst, hss, hts⟩
    exact ⟨fun bound _ _ keep state => solve_keeping keep bound state,
      fun listed hlisted => eq_steps_of_moves_eq_ok hlisted,
      Towers.replay?_steps_single puzzle.disks.toNat _ _ _ hst hss hts⟩

/-- Two disks are carried from a larger one onto another, past two larger ones on the spare
peg. -/
theorem transfer_carries_smallest_two_of_six :
    (∃ towers after : Towers, towers Pegs.standard.source = [1, 2, 7] ∧
      towers Pegs.standard.destination = [5] ∧ towers Pegs.standard.auxiliary = [3, 9] ∧
      towers.replay?
          (steps 2 Pegs.standard.source Pegs.standard.destination Pegs.standard.auxiliary) =
        some after ∧
      after Pegs.standard.source = [7] ∧ after Pegs.standard.destination = [1, 2, 5] ∧
      after Pegs.standard.auxiliary = [3, 9]) ∧
    (Towers.single 3 Pegs.standard.source).replay? (Puzzle.steps ⟨3, .standard⟩) =
      some (Towers.single 3 Pegs.standard.destination) := by
  refine ⟨?_, (transfer_carries_smallest.2 ⟨3, .standard⟩ (by decide)).2.2⟩
  let towers : Towers := Function.update (Function.update (Function.update (fun _ => [])
    Pegs.standard.source [1, 2, 7]) Pegs.standard.destination [5]) Pegs.standard.auxiliary [3, 9]
  have hlegal : towers.Legal :=
    ((Towers.Legal.update (fun _ => .nil) _ (by decide)).update _ (by decide)).update _ (by decide)
  have hlt : ∀ small ∈ [1, 2], ∀ large, large ∈ [5] ∨ large ∈ [3, 9] → small < large := by
    simp
  obtain ⟨-, -, after, hreplay, -, hsource, htarget, hother⟩ := transfer_carries_smallest.1 2
    Pegs.standard.source Pegs.standard.destination Pegs.standard.auxiliary towers (by decide)
    (by decide) (by decide) hlegal ⟨by decide, hlt⟩
  exact ⟨towers, after, rfl, rfl, rfl, hreplay, hsource, htarget, hother _ (by decide) (by decide)⟩

end TowerOfHanoi
