import TowerOfHanoi.Proofs.Arrangement
import TowerOfHanoi.Proofs.Legality

/-!
# No solution is shorter, and no other is as short

Any legal list of moves that takes a tower from one peg to another has to move the largest disk.
When it moves for the first time, all smaller disks have been gathered on the peg that is neither
its source nor its target; when it moves for the last time, they are gathered on such a peg too
and must still come to the destination. So the list has the moves for two smaller towers in it
and at least one more move. If it has just one more, then the largest disk goes straight to the
destination and the smaller towers go by way of the same peg as in the steps of a transfer; if
the largest disk takes a detour, the list is longer.

## Main definitions

* `Pegs.toList`: the three pegs of a puzzle.
* `Arrangement.Optimal`: no walk that takes all disks from one peg to another beats the steps.

## Main results

* `Arrangement.optimal`: towers of every height are optimal, by what precedes and what follows the
  moves of the largest disk.
* `transferred_unique_shortest`: the moves of a transfer are the only shortest solution.
-/

namespace TowerOfHanoi

/-! ### Three pegs -/

namespace Pegs

/-- The three pegs. -/
def toList (pegs : Pegs) : List Peg :=
  [pegs.source, pegs.destination, pegs.auxiliary]

variable {pegs : Pegs} {first second third : Peg}

theorem mem_toList {peg : Peg} :
    peg ∈ pegs.toList ↔ peg = pegs.source ∨ peg = pegs.destination ∨ peg = pegs.auxiliary := by
  rw [toList, List.mem_cons, List.mem_cons, List.mem_singleton]

/-- There is a peg beside any two. -/
theorem exists_third (hdistinct : pegs.Distinct) (first second : Peg) :
    ∃ third ∈ pegs.toList, third ≠ first ∧ third ≠ second := by
  obtain ⟨hsd, hsa, hda⟩ := hdistinct
  by_contra hnone
  have hpair : ∀ peg ∈ pegs.toList, peg = first ∨ peg = second := fun peg hpeg => by
    by_contra hneither
    exact hnone ⟨peg, hpeg, fun h => hneither (.inl h), fun h => hneither (.inr h)⟩
  have hsource := hpair pegs.source (mem_toList.mpr (.inl rfl))
  have hdestination := hpair pegs.destination (mem_toList.mpr (.inr (.inl rfl)))
  have hauxiliary := hpair pegs.auxiliary (mem_toList.mpr (.inr (.inr rfl)))
  grind

/-- There is no more than one peg beside two different ones. -/
theorem eq_third (hfirst : first ∈ pegs.toList) (hsecond : second ∈ pegs.toList)
    (hthird : third ∈ pegs.toList) (h12 : first ≠ second) (h13 : third ≠ first)
    (h23 : third ≠ second) {peg : Peg} (hpeg : peg ∈ pegs.toList) (h1 : peg ≠ first)
    (h2 : peg ≠ second) : peg = third := by
  rw [mem_toList] at hfirst hsecond hthird hpeg
  grind

end Pegs

/-! ### Walks of all disks -/

namespace Arrangement

variable {pegs : Pegs} {place after : Arrangement} {disks : Nat}

/-- When the largest disk moves, all others are on the third peg. -/
theorem Hop.gathered {move : Move} (hop : Hop place (disks + 1) move)
    (hplace : ∀ disk, place disk ∈ pegs.toList) (htarget : move.target ∈ pegs.toList)
    {third : Peg} (hthird : third ∈ pegs.toList) (hsource : third ≠ move.source)
    (hne : third ≠ move.target) : place.Gathered disks third := by
  intro disk one_le le
  obtain ⟨hleave, harrive⟩ := hop.place_ne disk one_le (Nat.lt_succ_of_le le)
  exact Pegs.eq_third (hop.place_eq ▸ hplace _) htarget hthird hop.source_ne_target hsource hne
    (hplace disk) hleave harrive

/-- A larger disk does not matter to where the others are gathered. -/
theorem Gathered.update {peg : Peg} (hgathered : place.Gathered disks peg) (other : Peg) :
    Gathered (Function.update place (disks + 1) other) disks peg := by
  intro disk one_le le
  rw [Function.update_of_ne (by omega)]
  exact hgathered disk one_le le

theorem Gathered.mono {peg : Peg} (hgathered : place.Gathered (disks + 1) peg) :
    place.Gathered disks peg :=
  fun disk one_le le => hgathered disk one_le (Nat.le_succ_of_le le)

/-- Walks that take all disks from one of the pegs to another are no shorter than the steps of a
transfer, and those that are as short are these steps. -/
def Optimal (pegs : Pegs) (disks : Nat) : Prop :=
  ∀ ⦃source target spare : Peg⦄ ⦃place after : Arrangement⦄ ⦃moves : List Move⦄,
    source ∈ pegs.toList → target ∈ pegs.toList → spare ∈ pegs.toList →
    source ≠ target → source ≠ spare → target ≠ spare →
    Walk disks place moves after → (∀ disk, place disk ∈ pegs.toList) →
    (∀ move ∈ moves, move.target ∈ pegs.toList) →
    place.Gathered disks source → after.Gathered disks target →
    2 ^ disks ≤ moves.length + 1 ∧
      (moves.length + 1 = 2 ^ disks → moves = steps disks source target spare)

section Largest

variable {during : Arrangement} {move : Move} {moves : List Move} {third : Peg}

/-- Before the largest disk moves, the others go to the third peg. -/
theorem Optimal.before_largest (hoptimal : Optimal pegs disks)
    (walk : Walk disks place moves during) (hop : Hop during (disks + 1) move)
    (hplace : ∀ disk, place disk ∈ pegs.toList)
    (hmoves : ∀ move ∈ moves, move.target ∈ pegs.toList) (hmove : move.target ∈ pegs.toList)
    (hstart : place.Gathered (disks + 1) move.source) (hthird : third ∈ pegs.toList)
    (hsource : third ≠ move.source) (htarget : third ≠ move.target) :
    2 ^ disks ≤ moves.length + 1 ∧
      (moves.length + 1 = 2 ^ disks → moves = steps disks move.source third move.target) := by
  have hduring := walk.place_mem hplace hmoves
  exact hoptimal (hop.place_eq ▸ hduring _) hthird hmove hsource.symm hop.source_ne_target htarget
    walk hplace hmoves hstart.mono (hop.gathered hduring hmove hthird hsource htarget)

/-- After the largest disk has moved, the others come from the third peg. -/
theorem Optimal.after_largest (hoptimal : Optimal pegs disks)
    (walk : Walk disks (Function.update during (disks + 1) move.target) moves after)
    (hop : Hop during (disks + 1) move) (hduring : ∀ disk, during disk ∈ pegs.toList)
    (hmoves : ∀ move ∈ moves, move.target ∈ pegs.toList) (hmove : move.target ∈ pegs.toList)
    (hend : after.Gathered (disks + 1) move.target) (hthird : third ∈ pegs.toList)
    (hsource : third ≠ move.source) (htarget : third ≠ move.target) :
    2 ^ disks ≤ moves.length + 1 ∧
      (moves.length + 1 = 2 ^ disks → moves = steps disks third move.target move.source) :=
  hoptimal hthird hmove (hop.place_eq ▸ hduring _) htarget hsource hop.source_ne_target.symm walk
    (update_mem hduring hmove _) hmoves
    ((hop.gathered hduring hmove hthird hsource htarget).update _) hend.mono

/-- The target of the last move of the largest disk is where all disks end. -/
theorem Walk.target_eq {target : Peg}
    (walk : Walk disks (Function.update during (disks + 1) move.target) moves after)
    (hend : after.Gathered (disks + 1) target) : move.target = target := by
  rw [← hend (disks + 1) (by omega) le_rfl, walk.place_eq_of_lt (Nat.lt_succ_self disks),
    Function.update_self]

/-- The source of the first move of the largest disk is where all disks start. -/
theorem Walk.source_eq {source : Peg} (walk : Walk disks place moves during)
    (hop : Hop during (disks + 1) move) (hstart : place.Gathered (disks + 1) source) :
    move.source = source := by
  rw [← hstart (disks + 1) (by omega) le_rfl, ← walk.place_eq_of_lt (Nat.lt_succ_self disks),
    hop.place_eq]

end Largest

/-- **Walks of all disks are no shorter than a transfer**, and no other walk is as short. -/
theorem optimal (hdistinct : pegs.Distinct) (disks : Nat) : Optimal pegs disks := by
  induction disks with
  | zero =>
    intro source target spare place after moves _ _ _ _ _ _ _ _ _ _ _
    refine ⟨Nat.le_add_left 1 _, fun h => ?_⟩
    rw [steps, List.eq_nil_of_length_eq_zero (Nat.succ.inj h)]
  | succ disks ih =>
    intro source target spare place after moves hsource htarget hspare hst hss hts walk hplace
      hmoves hstart hend
    obtain hall | ⟨before, move, rest, during, rfl, hbefore, hop, hrest⟩ := walk.split_first
    · -- The largest disk cannot stay where it is.
      have hsame := hall.place_eq_of_lt (Nat.lt_succ_self disks)
      rw [hstart _ (by omega) le_rfl, hend _ (by omega) le_rfl] at hsame
      exact absurd hsame hst.symm
    rw [List.forall_mem_append, List.forall_mem_cons] at hmoves
    obtain ⟨hbeforePegs, hmove, hrestPegs⟩ := hmoves
    have hduring := hbefore.place_mem hplace hbeforePegs
    obtain rfl := hbefore.source_eq hop hstart
    obtain hlast | ⟨middle, last, tail, meanwhile, rfl, hmiddle, hback, htail⟩ := hrest.split_last
    · -- The largest disk moves once: the smaller towers are moved before and after.
      obtain rfl := hlast.target_eq hend
      obtain ⟨hbeforeLength, hbeforeSteps⟩ :=
        ih.before_largest hbefore hop hplace hbeforePegs hmove hstart hspare hss.symm hts.symm
      obtain ⟨hrestLength, hrestSteps⟩ :=
        ih.after_largest hlast hop hduring hrestPegs hmove hend hspare hss.symm hts.symm
      rw [List.length_append, List.length_cons, Nat.pow_succ]
      refine ⟨by omega, fun hlength => ?_⟩
      rw [hbeforeSteps (by omega), hrestSteps (by omega), steps, List.append_assoc]
      rfl
    · -- The largest disk moves at least twice: two smaller towers and two moves are too many.
      rw [List.forall_mem_append, List.forall_mem_cons] at hrestPegs
      obtain ⟨hmiddlePegs, hlastPeg, htailPegs⟩ := hrestPegs
      have hmeanwhile := hmiddle.place_mem (update_mem hduring hmove _) hmiddlePegs
      obtain rfl := htail.target_eq hend
      obtain ⟨third, hthird, h1, h2⟩ := Pegs.exists_third hdistinct move.source move.target
      obtain ⟨fourth, hfourth, h3, h4⟩ := Pegs.exists_third hdistinct last.source last.target
      have hbeforeLength :=
        (ih.before_largest hbefore hop hplace hbeforePegs hmove hstart hthird h1 h2).1
      have htailLength :=
        (ih.after_largest htail hback hmeanwhile htailPegs hlastPeg hend hfourth h3 h4).1
      simp only [List.length_append, List.length_cons, Nat.pow_succ]
      exact ⟨by omega, fun hlength => by omega⟩

end Arrangement

/-! ### Lists of legal moves -/

/-- A list of legal moves that takes a tower from one peg to another has a walk of all its disks
in it, which leaves out the moves from a peg to itself. -/
theorem length_le_of_replay? {pegs : Pegs} (hdistinct : pegs.Distinct) {disks : Nat}
    {moves : List Move}
    (hmoves : ∀ move ∈ moves, move.source ∈ pegs.toList ∧ move.target ∈ pegs.toList)
    (hreplay : (Towers.single disks pegs.source).replay? moves =
      some (Towers.single disks pegs.destination)) :
    2 ^ disks ≤ moves.length + 1 ∧
      (moves.length + 1 = 2 ^ disks →
        moves = steps disks pegs.source pegs.destination pegs.auxiliary) := by
  have hfiltered := Towers.replay?_filter hreplay
  obtain ⟨proper, hproper⟩ :
    ∃ proper, proper = moves.filter fun move => move.source ≠ move.target := ⟨_, rfl⟩
  have hsublist : proper.Sublist moves := hproper ▸ List.filter_sublist
  have hshorter := hsublist.length_le
  rw [← hproper] at hfiltered
  have hne : ∀ move ∈ proper, move.source ≠ move.target := fun move hmove => by
    rw [hproper, List.mem_filter] at hmove
    exact of_decide_eq_true hmove.2
  rw [Arrangement.single_eq_towers] at hfiltered
  obtain ⟨place, walk, hplace⟩ := Arrangement.exists_walk hne hfiltered
  have hpegs : ∀ move ∈ proper, move.target ∈ pegs.toList :=
    fun move hmove => (hmoves move (hsublist.mem hmove)).2
  obtain ⟨hle, hunique⟩ := Arrangement.optimal hdistinct disks (Pegs.mem_toList.mpr (.inl rfl))
    (Pegs.mem_toList.mpr (.inr (.inl rfl))) (Pegs.mem_toList.mpr (.inr (.inr rfl)))
    hdistinct.1 hdistinct.2.1 hdistinct.2.2 walk (fun _ => Pegs.mem_toList.mpr (.inl rfl)) hpegs
    (fun _ _ _ => rfl) (Arrangement.gathered_of_towers_eq_single hplace.symm)
  refine ⟨by omega, fun hlength => ?_⟩
  have hall : proper = moves := hsublist.eq_of_length_le (by omega)
  rw [← hall]
  exact hunique (by omega)

/-- **The moves of a transfer are the only shortest solution.** Every list of legal moves between
three pegs that takes a tower from one peg to another, also one that puts disks back on their own
peg, is at least as long as the list of the moves that a transfer or the solution of a puzzle
records, which has `2 ^ disks - 1` of them, and is equal to it if it is not longer. -/
theorem transferred_unique_shortest (pegs : Pegs) (hdistinct : pegs.Distinct) (disks : Nat)
    (moves : List Move)
    (hmoves : ∀ move ∈ moves, move.source ∈ pegs.toList ∧ move.target ∈ pegs.toList)
    (hreplay : (Towers.single disks pegs.source).replay? moves =
      some (Towers.single disks pegs.destination)) :
    (transferred disks pegs.source pegs.destination pegs.auxiliary).length = 2 ^ disks - 1 ∧
    (transferred disks pegs.source pegs.destination pegs.auxiliary).length ≤ moves.length ∧
    (moves.length = (transferred disks pegs.source pegs.destination pegs.auxiliary).length →
      moves = transferred disks pegs.source pegs.destination pegs.auxiliary) ∧
    ∀ count : UInt32, count.toNat = disks → count ≤ 64 →
      (solve (collector (m := Id) fun _ => pure ()) ⟨count, pegs⟩).run.run #[] =
        (.ok (), (transferred disks pegs.source pegs.destination pegs.auxiliary).toArray) := by
  have hlength := length_steps_add_one disks pegs.source pegs.destination pegs.auxiliary
  obtain ⟨hle, hunique⟩ := length_le_of_replay? hdistinct hmoves hreplay
  rw [transferred_eq_steps]
  refine ⟨length_steps _ _ _ _, by omega, fun h => hunique (by omega), fun count hcount bound => ?_⟩
  rw [solve_collector bound, Puzzle.steps, hcount]
  simp

/-- A detour of a single disk is longer than its one move, and three moves that bring two disks
to their destination are those of the transfer. -/
theorem transferred_unique_shortest_detour :
    ((Towers.single 1 Pegs.standard.source).replay?
        ([⟨Pegs.standard.source, Pegs.standard.auxiliary⟩] ++
          [⟨Pegs.standard.auxiliary, Pegs.standard.destination⟩]) =
        some (Towers.single 1 Pegs.standard.destination) ∧
      (transferred 1 Pegs.standard.source Pegs.standard.destination
        Pegs.standard.auxiliary).length ≤ 2) ∧
    (Towers.single 2 Pegs.standard.source).replay?
        [⟨Pegs.standard.source, Pegs.standard.auxiliary⟩,
          ⟨Pegs.standard.source, Pegs.standard.destination⟩,
          ⟨Pegs.standard.auxiliary, Pegs.standard.destination⟩] =
      some (Towers.single 2 Pegs.standard.destination) ∧
    [⟨Pegs.standard.source, Pegs.standard.auxiliary⟩,
        ⟨Pegs.standard.source, Pegs.standard.destination⟩,
        ⟨Pegs.standard.auxiliary, Pegs.standard.destination⟩] =
      transferred 2 Pegs.standard.source Pegs.standard.destination Pegs.standard.auxiliary := by
  have hdetour : (Towers.single 1 Pegs.standard.source).replay?
      ([⟨Pegs.standard.source, Pegs.standard.auxiliary⟩] ++
        [⟨Pegs.standard.auxiliary, Pegs.standard.destination⟩]) =
      some (Towers.single 1 Pegs.standard.destination) := by
    have hleave := Towers.replay?_steps_single 1 Pegs.standard.source Pegs.standard.auxiliary
      Pegs.standard.destination (by decide) (by decide) (by decide)
    have harrive := Towers.replay?_steps_single 1 Pegs.standard.auxiliary Pegs.standard.destination
      Pegs.standard.source (by decide) (by decide) (by decide)
    rw [Towers.replay?_append]
    exact (congrArg (Option.bind · _) hleave).trans harrive
  have hdirect := Towers.replay?_steps_single 2 Pegs.standard.source Pegs.standard.destination
    Pegs.standard.auxiliary (by decide) (by decide) (by decide)
  exact ⟨⟨hdetour, (transferred_unique_shortest .standard (by decide) 1 _ (by decide) hdetour).2.1⟩,
    hdirect, (transferred_unique_shortest .standard (by decide) 2 _ (by decide) hdirect).2.2.1 rfl⟩

end TowerOfHanoi
