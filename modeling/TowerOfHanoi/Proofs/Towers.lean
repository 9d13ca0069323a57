import Mathlib.Data.List.Basic
import Mathlib.Data.List.Sort
import Mathlib.Logic.Function.Basic
import TowerOfHanoi.Move

/-!
# Towers of disks on pegs

A move names two pegs and no disk. This file says what it does to the disks that stand on the
pegs: it lifts the top disk of its source and puts it on its target, which is legal if the source
has a disk and the target's top disk, where there is one, is larger. Disks are known by their
sizes, and a tower is the list of its disks from the top down.

## Main definitions

* `Towers`: which disks stand on which peg, with `Towers.single` for one tower and nothing else.
* `Towers.Legal`: on every peg the disks grow from the top down.
* `Towers.step?`, `Towers.replay?`: the towers after a move and after a list of moves, if every
  one of them is legal.

## Main results

* `Towers.step?_eq_some_iff`: what a legal move needs and what it changes.
* `Towers.Legal.replay?`: legal moves keep the towers legal.
* `Towers.replay?_filter`: moves from a peg to itself change nothing.
-/

namespace TowerOfHanoi

/-- The disks on every peg, from the top down. -/
abbrev Towers := Peg → List Nat

namespace Towers

/-- One tower of the disks from `1` to `disks`, with all other pegs empty. -/
def single (disks : Nat) (peg : Peg) : Towers :=
  Function.update (fun _ => []) peg (List.range' 1 disks)

/-- On every peg the disks grow from the top down. -/
def Legal (towers : Towers) : Prop :=
  ∀ peg, (towers peg).Pairwise (· < ·)

/-- The towers after a move: the top disk of the source is lifted, and then put on the target,
where it must not find a disk that is not larger. -/
def step? (towers : Towers) (move : Move) : Option Towers :=
  match towers move.source with
  | [] => none
  | disk :: below =>
    let lifted := Function.update towers move.source below
    if ∀ top ∈ (lifted move.target).head?, disk < top then
      some (Function.update lifted move.target (disk :: lifted move.target))
    else none

/-- The towers after all the moves, each of which must be legal where it is made. -/
def replay? (towers : Towers) (moves : List Move) : Option Towers :=
  moves.foldlM step? towers

/-! ### One move -/

theorem step?_eq_some_iff {towers after : Towers} {move : Move} :
    towers.step? move = some after ↔
      ∃ disk below, towers move.source = disk :: below ∧
        (∀ top ∈ (Function.update towers move.source below move.target).head?, disk < top) ∧
        after = Function.update (Function.update towers move.source below) move.target
          (disk :: Function.update towers move.source below move.target) := by
  unfold step?
  cases h : towers move.source with
  | nil => simp
  | cons disk below =>
    simp only [Option.ite_none_right_eq_some, Option.some.injEq, List.cons.injEq]
    constructor
    · rintro ⟨hsmall, rfl⟩
      exact ⟨disk, below, ⟨rfl, rfl⟩, hsmall, rfl⟩
    · rintro ⟨_, _, ⟨rfl, rfl⟩, hsmall, rfl⟩
      exact ⟨hsmall, rfl⟩

/-- The top disk of a peg may go to another peg where every disk is larger. -/
theorem step?_of_lt {towers : Towers} {source target : Peg} (hne : source ≠ target)
    {disk : Nat} {below : List Nat} (hsource : towers source = disk :: below)
    (hlt : ∀ other ∈ towers target, disk < other) :
    towers.step? ⟨source, target⟩ =
      some (Function.update (Function.update towers source below) target
        (disk :: towers target)) := by
  refine step?_eq_some_iff.mpr ⟨disk, below, hsource, fun top htop => ?_, ?_⟩
  · rw [Function.update_of_ne hne.symm] at htop
    exact hlt top (List.mem_of_mem_head? htop)
  · rw [Function.update_of_ne hne.symm]

/-- A disk that is put back on its own peg changes nothing. -/
theorem eq_of_step?_self {towers after : Towers} {move : Move}
    (hself : move.source = move.target) (h : towers.step? move = some after) : after = towers := by
  obtain ⟨disk, below, hsource, -, rfl⟩ := step?_eq_some_iff.mp h
  rw [← hself, Function.update_self, Function.update_idem, ← hsource, Function.update_eq_self]

theorem Legal.update {towers : Towers} (hlegal : towers.Legal) (peg : Peg) {disks : List Nat}
    (hdisks : disks.Pairwise (· < ·)) : Legal (Function.update towers peg disks) := by
  intro other
  by_cases h : other = peg
  · rwa [h, Function.update_self]
  · rw [Function.update_of_ne h]
    exact hlegal other

/-- A disk that is smaller than the top disk of a peg is smaller than all its disks. -/
theorem Legal.lt_of_lt_top {towers : Towers} (hlegal : towers.Legal) {peg : Peg} {disk : Nat}
    (htop : ∀ top ∈ (towers peg).head?, disk < top) : ∀ other ∈ towers peg, disk < other := by
  intro other hother
  have hsorted := hlegal peg
  cases hdisks : towers peg with
  | nil => simp [hdisks] at hother
  | cons top rest =>
    rw [hdisks] at hsorted hother htop
    rcases List.mem_cons.mp hother with rfl | hrest
    · exact htop other rfl
    · exact (htop top rfl).trans (List.rel_of_pairwise_cons hsorted hrest)

/-- A legal move keeps the towers legal. -/
theorem Legal.step? {towers after : Towers} {move : Move} (hlegal : towers.Legal)
    (h : towers.step? move = some after) : after.Legal := by
  obtain ⟨disk, below, hsource, htop, rfl⟩ := step?_eq_some_iff.mp h
  have hlifted := hlegal.update move.source (hsource ▸ hlegal move.source).tail
  exact hlifted.update move.target
    (List.pairwise_cons.mpr ⟨hlifted.lt_of_lt_top htop, hlifted move.target⟩)

/-! ### One tower and nothing else -/

theorem single_self (disks : Nat) (peg : Peg) : single disks peg peg = List.range' 1 disks :=
  Function.update_self ..

theorem single_of_ne (disks : Nat) {peg other : Peg} (h : other ≠ peg) :
    single disks peg other = [] :=
  Function.update_of_ne h ..

theorem legal_single (disks : Nat) (peg : Peg) : (single disks peg).Legal :=
  Legal.update (fun _ => List.Pairwise.nil) peg List.pairwise_lt_range'

/-! ### A list of moves -/

@[simp] theorem replay?_nil (towers : Towers) : towers.replay? [] = some towers := rfl

@[simp] theorem replay?_cons (towers : Towers) (move : Move) (rest : List Move) :
    towers.replay? (move :: rest) = (towers.step? move).bind (replay? · rest) := rfl

theorem replay?_append (towers : Towers) (first second : List Move) :
    towers.replay? (first ++ second) = (towers.replay? first).bind (replay? · second) :=
  List.foldlM_append

/-- Legal moves keep the towers legal. -/
theorem Legal.replay? {towers after : Towers} {moves : List Move} (hlegal : towers.Legal)
    (h : towers.replay? moves = some after) : after.Legal := by
  induction moves generalizing towers with
  | nil => exact Option.some.inj h ▸ hlegal
  | cons move rest ih =>
    obtain ⟨next, hmove, hrest⟩ := Option.bind_eq_some_iff.mp h
    exact ih (hlegal.step? hmove) hrest

/-- The moves from a peg to itself can be left out. -/
theorem replay?_filter {towers after : Towers} {moves : List Move}
    (h : towers.replay? moves = some after) :
    towers.replay? (moves.filter fun move => move.source ≠ move.target) = some after := by
  induction moves generalizing towers with
  | nil => exact h
  | cons move rest ih =>
    obtain ⟨next, hmove, hrest⟩ := Option.bind_eq_some_iff.mp h
    by_cases hself : move.source = move.target
    · rw [List.filter_cons_of_neg (by simpa using hself)]
      exact ih (eq_of_step?_self hself hmove ▸ hrest)
    · rw [List.filter_cons_of_pos (by simpa using hself), replay?_cons, hmove]
      exact ih hrest

end Towers

end TowerOfHanoi
