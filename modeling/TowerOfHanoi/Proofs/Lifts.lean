import Mathlib.NumberTheory.Padics.PadicVal.Basic
import TowerOfHanoi.Proofs.Legality
import TowerOfHanoi.Proofs.Position

/-!
# Which disk is lifted when

A move names no disk, so the disk that it lifts is known only where the towers stand. When the
moves of a transfer are replayed on the tower that they are for, the disks that are lifted are those
of a ruler: the marks on a ruler of twice the length are the marks of the ruler, one longer mark in
the middle, and the marks of the ruler again. So the disk at a position is told by how often two
divides the position.

The three pegs can be gone around in two directions. The largest disk of a tower makes one step from
the source to the target. The smaller disks are moved before and after it by transfers that go
around the other way, and so on down the tower: each disk keeps to one direction, which is not that
of the next larger disk.

## Main definitions

* `Lift`: a disk that is lifted, and the move that lifts it.
* `Towers.lifts?`: what a list of moves lifts, if every one of them is legal.
* `ruler`: the disks that are lifted in the course of a transfer.
* `around`: the moves from each of three pegs to the next.

## Main results

* `Towers.lifts?_steps`: what the steps of a transfer lift.
* `ruler_eq_map_positions`: the disk at a position is told by how often two divides it.
* `mem_around_of_mem_lifts`: every disk goes around in one direction.
* `transferred_lifts`: which disk each recorded move lifts, how often, and where to.
-/

namespace TowerOfHanoi

/-- A disk that is lifted, and the move that lifts it. -/
structure Lift where
  /-- The disk, known by its size. -/
  disk : Nat
  /-- The move. -/
  move : Move
  deriving DecidableEq

/-! ### What a list of moves lifts -/

namespace Towers

/-- The disks that the moves lift, each with its move, if every move is legal where it is made. -/
def lifts? (towers : Towers) : List Move → Option (List Lift)
  | [] => some []
  | move :: rest => do
    let disk ← (towers move.source).head?
    let next ← towers.step? move
    let later ← lifts? next rest
    return ⟨disk, move⟩ :: later

variable {towers during : Towers}

theorem lifts?_cons {disk : Nat} {below : List Nat} {move : Move} {rest : List Move}
    {later : List Lift} (hsource : towers move.source = disk :: below)
    (hstep : towers.step? move = some during) (hrest : during.lifts? rest = some later) :
    towers.lifts? (move :: rest) = some (⟨disk, move⟩ :: later) := by
  simp [lifts?, hsource, hstep, hrest]

/-- What is lifted by moves in a row, where the first of them leave the towers. -/
theorem lifts?_append {first second : List Move} {before after : List Lift}
    (hfirst : towers.lifts? first = some before) (hduring : towers.replay? first = some during)
    (hsecond : during.lifts? second = some after) :
    towers.lifts? (first ++ second) = some (before ++ after) := by
  induction first generalizing towers before with
  | nil =>
    cases hfirst
    cases hduring
    exact hsecond
  | cons move rest ih =>
    obtain ⟨next, hstep, hreplay⟩ := Option.bind_eq_some_iff.mp hduring
    obtain ⟨disk, below, hsource, -, -⟩ := step?_eq_some_iff.mp hstep
    simp only [lifts?, hsource, List.head?_cons, hstep, Option.bind_eq_bind,
      Option.bind_some] at hfirst
    obtain ⟨later, hlater, hbefore⟩ := Option.bind_eq_some_iff.mp hfirst
    cases hbefore
    exact lifts?_cons hsource hstep (ih hlater hreplay)

end Towers

/-! ### What a transfer lifts -/

/-- The disks that the steps of a transfer lift, each with its step: the disk below the smaller ones
is lifted between two transfers of these. -/
def lifts : (disks : Nat) → (source target spare : Peg) → List Lift
  | 0, _, _, _ => []
  | disks + 1, source, target, spare =>
    lifts disks source spare target ++ [⟨disks + 1, ⟨source, target⟩⟩] ++
      lifts disks spare target source

theorem map_move_lifts (disks : Nat) (source target spare : Peg) :
    (lifts disks source target spare).map Lift.move = steps disks source target spare := by
  induction disks generalizing source target spare with
  | zero => rfl
  | succ disks ih => simp [lifts, steps, ih]

namespace Towers

variable {towers : Towers} {disks : Nat} {source target spare : Peg}

/-- **The steps of a transfer lift each disk in its turn**, if the smallest disks of all are those
from `1` to the number of disks, on top of the source. -/
theorem lifts?_steps (hst : source ≠ target) (hss : source ≠ spare) (hts : target ≠ spare)
    (hlegal : towers.Legal) (hsmallest : towers.SmallestOn disks source target spare)
    (hdisks : (towers source).take disks = List.range' 1 disks) :
    towers.lifts? (steps disks source target spare) = some (lifts disks source target spare) := by
  induction disks generalizing source target spare towers with
  | zero => rfl
  | succ disks ih =>
    obtain ⟨largest, below, hbelow, htake⟩ := hsmallest.exists_largest
    rw [htake, List.range'_1_concat] at hdisks
    obtain ⟨hsmaller, hlargest⟩ := List.append_inj' hdisks rfl
    obtain rfl : largest = 1 + disks := List.singleton_inj.mp hlargest
    have hleave := replay?_steps hss hst hts.symm hlegal hsmallest.leave
    have hcross := hsmallest.cross hst hss hts
    have hcrossed := (hlegal.replay? hleave).step? hcross
    have hspare : ((towers.carry disks source spare).carry 1 source target spare).take disks =
        List.range' 1 disks := by
      rw [carry_of_ne hss.symm hts.symm, carry_target, hsmaller, List.take_left' (by simp)]
    have hlargestLift : (towers.carry disks source spare).lifts? [⟨source, target⟩] =
        some [⟨disks + 1, ⟨source, target⟩⟩] := by
      rw [Nat.add_comm]
      exact lifts?_cons ((carry_source hss).trans hbelow) hcross rfl
    have hreplay : towers.replay? (steps disks source spare target ++ [⟨source, target⟩]) =
        some ((towers.carry disks source spare).carry 1 source target) := by
      rw [replay?_append, hleave, Option.bind_some, replay?_cons, hcross]
      rfl
    exact lifts?_append
      (lifts?_append (ih hss hst hts.symm hlegal hsmallest.leave hsmaller) hleave hlargestLift)
      hreplay (ih hts.symm hss.symm hst.symm hcrossed (hsmallest.follow hst hss hts hlegal) hspare)

theorem lifts?_steps_single (disks : Nat) (hst : source ≠ target) (hss : source ≠ spare)
    (hts : target ≠ spare) :
    (single disks source).lifts? (steps disks source target spare) =
      some (lifts disks source target spare) := by
  refine lifts?_steps hst hss hts (legal_single disks source) (smallestOn_single disks hst hss) ?_
  rw [single_self, List.take_of_length_le List.length_range'.le]

end Towers

/-! ### The ruler -/

/-- The disks that are lifted in the course of a transfer, in order. -/
def ruler : (disks : Nat) → List Nat
  | 0 => []
  | disks + 1 => ruler disks ++ [disks + 1] ++ ruler disks

theorem map_disk_lifts (disks : Nat) (source target spare : Peg) :
    (lifts disks source target spare).map Lift.disk = ruler disks := by
  induction disks generalizing source target spare with
  | zero => rfl
  | succ disks ih => simp [lifts, ruler, ih]

theorem le_of_mem_ruler {disks disk : Nat} (hdisk : disk ∈ ruler disks) : disk ≤ disks := by
  induction disks with
  | zero => simp [ruler] at hdisk
  | succ disks ih =>
    rw [ruler, List.mem_append, List.mem_append, List.mem_singleton] at hdisk
    rcases hdisk with (hbefore | rfl) | hafter
    · exact Nat.le_succ_of_le (ih hbefore)
    · exact Nat.le_refl _
    · exact Nat.le_succ_of_le (ih hafter)

theorem disk_le_of_mem_lifts {disks : Nat} {source target spare : Peg} {lift : Lift}
    (hlift : lift ∈ lifts disks source target spare) : lift.disk ≤ disks :=
  le_of_mem_ruler (map_disk_lifts disks source target spare ▸ List.mem_map_of_mem hlift)

/-- A disk is lifted once if it is the largest one, and twice as often for every larger one. -/
theorem count_ruler {disks disk : Nat} (one_le : 1 ≤ disk) (le : disk ≤ disks) :
    (ruler disks).count disk = 2 ^ (disks - disk) := by
  induction disks with
  | zero => omega
  | succ disks ih =>
    rw [ruler, List.count_append, List.count_append]
    rcases Nat.lt_or_ge disks disk with hlt | hle
    · obtain rfl : disk = disks + 1 := by omega
      have hnone : (ruler disks).count (disks + 1) = 0 :=
        List.count_eq_zero.mpr fun hmem => absurd (le_of_mem_ruler hmem) (by omega)
      rw [hnone, List.count_singleton_self, Nat.sub_self, Nat.pow_zero]
    · have hsmaller : [disks + 1].count disk = 0 := List.count_eq_zero.mpr (by simp; omega)
      rw [ih hle, hsmaller, Nat.succ_sub hle, Nat.pow_succ]
      omega

/-- No disk is lifted twice in a row. -/
theorem isChain_ruler (disks : Nat) : (ruler disks).IsChain (· ≠ ·) := by
  induction disks with
  | zero => exact .nil
  | succ disks ih =>
    have hne {disk : Nat} (hdisk : disk ∈ ruler disks) : disk ≠ disks + 1 :=
      (Nat.lt_succ_of_le (le_of_mem_ruler hdisk)).ne
    rw [ruler, List.isChain_append, List.isChain_append]
    refine ⟨⟨ih, .singleton _, fun last hlast next hnext => ?_⟩, ih,
      fun last hlast next hnext => ?_⟩
    · obtain rfl : disks + 1 = next := by simpa using hnext
      exact hne (List.mem_of_getLast? hlast)
    · obtain rfl : disks + 1 = last := by simpa using hlast
      exact (hne (List.mem_of_head? hnext)).symm

/-- A power of two in front of a smaller number does not change how often two divides it. -/
theorem padicValNat_two_pow_add {disks position : Nat} (hposition : position ∈ positions disks) :
    padicValNat 2 (2 ^ disks + position) = padicValNat 2 position := by
  obtain ⟨one_le, hlt⟩ := mem_positions.mp hposition
  refine eq_of_forall_le_iff fun exponent => ?_
  rw [← padicValNat_dvd_iff_le (by omega), ← padicValNat_dvd_iff_le (by omega)]
  rcases Nat.lt_or_ge disks exponent with hgt | hle
  · have hpower : 2 ^ (disks + 1) ≤ 2 ^ exponent := Nat.pow_le_pow_right (by decide) hgt
    rw [Nat.pow_succ] at hpower
    exact iff_of_false (Nat.not_dvd_of_pos_of_lt (by omega) (by omega))
      (Nat.not_dvd_of_pos_of_lt one_le (by omega))
  · exact Nat.dvd_add_right (pow_dvd_pow 2 hle)

/-- **The disk at a position is told by how often two divides it.** -/
theorem ruler_eq_map_positions (disks : Nat) :
    ruler disks = (positions disks).map (padicValNat 2 · + 1) := by
  induction disks with
  | zero => rfl
  | succ disks ih =>
    have hagain : ((positions disks).map (2 ^ disks + ·)).map (padicValNat 2 · + 1) =
        ruler disks := by
      rw [ih, List.map_map]
      exact List.map_congr_left fun position hposition =>
        congrArg (· + 1) (padicValNat_two_pow_add hposition)
    rw [ruler, positions_succ, List.map_append, List.map_append, hagain, ← ih, List.map_singleton,
      padicValNat.prime_pow]

/-! ### The direction of every disk -/

/-- The moves from each of three pegs to the next. -/
def around (first second third : Peg) : List Move :=
  [⟨first, second⟩, ⟨second, third⟩, ⟨third, first⟩]

/-- It does not matter at which peg a round begins. -/
theorem mem_around_turn {first second third : Peg} {move : Move} :
    move ∈ around second third first ↔ move ∈ around first second third := by
  simp only [around, List.mem_cons, List.not_mem_nil, or_false]
  tauto

/-- **Every disk goes around in one direction**: by way of the target if the number of larger disks
is even, and by way of the spare peg if it is odd. -/
theorem mem_around_of_mem_lifts {disks : Nat} {source target spare : Peg} {lift : Lift}
    (hlift : lift ∈ lifts disks source target spare) :
    lift.move ∈ if Even (disks - lift.disk) then around source target spare
      else around source spare target := by
  induction disks generalizing source target spare with
  | zero => simp [lifts] at hlift
  | succ disks ih =>
    -- A smaller disk has one larger disk more in the larger tower.
    have hparity {source target spare : Peg} (hlift : lift ∈ lifts disks source target spare) :
        Even (disks + 1 - lift.disk) ↔ ¬ Even (disks - lift.disk) := by
      rw [Nat.succ_sub (disk_le_of_mem_lifts hlift), Nat.even_add_one]
    rw [lifts, List.mem_append, List.mem_append, List.mem_singleton] at hlift
    rcases hlift with (hleave | rfl) | hfollow
    · have haround := ih hleave
      rw [if_congr (hparity hleave) rfl rfl, ite_not]
      exact haround
    · rw [Nat.sub_self, if_pos Even.zero]
      exact List.mem_cons_self
    · have haround := ih hfollow
      rw [if_congr (hparity hfollow) rfl rfl, ite_not]
      by_cases heven : Even (disks - lift.disk)
      · rw [if_pos heven] at haround ⊢
        exact mem_around_turn.mp haround
      · rw [if_neg heven] at haround ⊢
        exact mem_around_turn.mpr haround

/-! ### The moves that are recorded -/

/-- **It is known which disk is lifted when, how often, and where to.** When the moves that a
transfer records are replayed on their tower, each of them lifts a disk. At every position it is the
disk whose number is one more than how often two divides the position. A disk is lifted twice as
often as the next larger one, and never twice in a row. The largest disk is lifted once, in the
middle, and goes from the source to the target. Every disk goes around the three pegs in one
direction: from the source to the target, the spare peg, and the source again if the number of
larger disks is even, and the other way if it is odd. -/
theorem transferred_lifts (disks : Nat) (source target spare : Peg) (hst : source ≠ target)
    (hss : source ≠ spare) (hts : target ≠ spare) :
    ∃ lifted,
      (Towers.single disks source).lifts? (transferred disks source target spare) = some lifted ∧
      lifted.map Lift.move = transferred disks source target spare ∧
      (∀ position, 1 ≤ position → position ≤ 2 ^ disks - 1 →
        (lifted.map Lift.disk)[position - 1]? = some (padicValNat 2 position + 1)) ∧
      (∀ disk, 1 ≤ disk → disk ≤ disks →
        (lifted.map Lift.disk).count disk = 2 ^ (disks - disk)) ∧
      (lifted.map Lift.disk).IsChain (· ≠ ·) ∧
      (1 ≤ disks → ∃ before after, lifted = before ++ ⟨disks, ⟨source, target⟩⟩ :: after ∧
        before.length + 1 = 2 ^ (disks - 1) ∧ disks ∉ before.map Lift.disk ∧
        disks ∉ after.map Lift.disk) ∧
      ∀ lift ∈ lifted, lift.move ∈ if Even (disks - lift.disk) then around source target spare
        else around source spare target := by
  refine ⟨lifts disks source target spare, ?_, ?_, fun position one_le le => ?_,
    fun disk one_le le => ?_, ?_, fun one_le => ?_, fun lift => mem_around_of_mem_lifts⟩
  · rw [transferred_eq_steps, Towers.lifts?_steps_single disks hst hss hts]
  · rw [transferred_eq_steps, map_move_lifts]
  · have hpower := Nat.two_pow_pos disks
    have hposition : position ∈ positions disks := mem_positions.mpr ⟨one_le, by omega⟩
    rw [map_disk_lifts, ruler_eq_map_positions, getElem?_map_positions _ hposition]
  · rw [map_disk_lifts, count_ruler one_le le]
  · rw [map_disk_lifts]
    exact isChain_ruler disks
  · obtain ⟨smaller, rfl⟩ := Nat.exists_eq_add_of_le' one_le
    have habsent {source target spare : Peg} :
        smaller + 1 ∉ (lifts smaller source target spare).map Lift.disk := by
      rw [map_disk_lifts]
      exact fun hmem => absurd (le_of_mem_ruler hmem) (by omega)
    have hlength : (lifts smaller source spare target).length =
        (steps smaller source spare target).length := by
      rw [← map_move_lifts, List.length_map]
    refine ⟨lifts smaller source spare target, lifts smaller spare target source, ?_, ?_, habsent,
      habsent⟩
    · rw [lifts, List.append_assoc]
      rfl
    · rw [hlength, length_steps_add_one, Nat.add_sub_cancel]

/-- Of four disks, the third is lifted at the twelfth position, twice in all, and never goes from
the source to the destination; the fourth is lifted at the eighth position. -/
theorem transferred_lifts_four :
    ∃ lifted, (Towers.single 4 Pegs.standard.source).lifts? (transferred 4 Pegs.standard.source
        Pegs.standard.destination Pegs.standard.auxiliary) = some lifted ∧
      (lifted.map Lift.disk)[12 - 1]? = some 3 ∧ (lifted.map Lift.disk).count 3 = 2 ∧
      ⟨3, ⟨Pegs.standard.source, Pegs.standard.destination⟩⟩ ∉ lifted ∧
      ∃ before after, before.length = 7 ∧ lifted =
        before ++ ⟨4, ⟨Pegs.standard.source, Pegs.standard.destination⟩⟩ :: after := by
  obtain ⟨lifted, hlifted, -, hposition, hcount, -, hlargest, haround⟩ := transferred_lifts 4
    Pegs.standard.source Pegs.standard.destination Pegs.standard.auxiliary (by decide) (by decide)
    (by decide)
  have htwelve : padicValNat 2 12 = 2 :=
    (@padicValNat_two_pow_add 3 4 (by decide)).trans (padicValNat.prime_pow 2)
  obtain ⟨before, after, hmiddle, hlength, -, -⟩ := hlargest (by decide)
  refine ⟨lifted, hlifted, ?_, hcount 3 (by decide) (by decide), fun hmem => ?_, before, after,
    Nat.succ.inj hlength, hmiddle⟩
  · rw [hposition 12 (by decide) (by decide), htwelve]
  · exact absurd (haround _ hmem) (by decide)

end TowerOfHanoi
