import Mathlib.Algebra.Group.Nat.Even
import TowerOfHanoi.Proofs.Streaming

/-!
# The moves by their positions

Without any recursion it can be said which move stands at which position of a transfer. Number the
pegs around a ring, in a direction that depends on whether the number of disks is even. Then the
binary digits of a position and of the position before it give the numbers of the two pegs.

The positions of a tower with one disk more are those of the smaller tower, then a power of two,
and then the positions of the smaller tower again, beyond that power. The power is a new binary
digit in front, so it adds the same to the numbers of all pegs, and modulo three it turns the ring
of the first smaller tower into the ring of the second.

## Main definitions

* `positions`: where the moves of a transfer stand, counted from one.
* `ringPeg`: the peg with a given number on the ring.
* `moveAt`: the move at a given position, from its binary digits.

## Main results

* `positions_succ`: the positions of a tower with one disk more.
* `steps_eq_map_moveAt`: the steps of a transfer are the moves at its positions.
* `transferred_at_position`: the same of the moves that are recorded.
-/

namespace TowerOfHanoi

/-! ### Positions -/

/-- The positions of the moves of a transfer, counted from one. -/
def positions (disks : Nat) : List Nat :=
  List.range' 1 (2 ^ disks - 1)

theorem mem_positions {disks position : Nat} :
    position ∈ positions disks ↔ 1 ≤ position ∧ position < 2 ^ disks := by
  have hpower := Nat.two_pow_pos disks
  rw [positions, List.mem_range'_1]
  omega

/-- The moves of the smaller tower, the move of the largest disk, and the moves of the smaller
tower again. -/
theorem positions_succ (disks : Nat) :
    positions (disks + 1) =
      positions disks ++ [2 ^ disks] ++ (positions disks).map (2 ^ disks + ·) := by
  have hpower := Nat.two_pow_pos disks
  have hlength : 2 ^ (disks + 1) - 1 = 2 ^ disks - 1 + 1 + (2 ^ disks - 1) := by
    rw [Nat.pow_succ]
    omega
  have hmiddle : 1 + (2 ^ disks - 1) = 2 ^ disks := by omega
  have hrest : 2 ^ disks + 1 = 1 + (2 ^ disks - 1 + 1) := by omega
  rw [positions, positions, hlength, ← List.range'_append_1, List.range'_1_concat, hmiddle,
    List.map_add_range', hrest]

/-- What stands at a position of a list that is made from the positions. -/
theorem getElem?_map_positions {α : Type} (entry : Nat → α) {disks position : Nat}
    (hposition : position ∈ positions disks) :
    ((positions disks).map entry)[position - 1]? = some (entry position) := by
  obtain ⟨one_le, hlt⟩ := mem_positions.mp hposition
  rw [List.getElem?_map, positions, List.getElem?_range' (by omega), Option.map_some]
  congr 2
  omega

/-! ### A new binary digit in front -/

section Bits

variable {disks first second : Nat}

theorem two_pow_add_eq_or (hfirst : first < 2 ^ disks) :
    2 ^ disks + first = 2 ^ disks ||| first := by
  have hdigit := Nat.two_pow_add_eq_or_of_lt hfirst 1
  rwa [Nat.mul_one] at hdigit

theorem two_pow_add_and (hfirst : first < 2 ^ disks) (hsecond : second < 2 ^ disks) :
    (2 ^ disks + first) &&& (2 ^ disks + second) = 2 ^ disks + (first &&& second) := by
  have hand : first &&& second < 2 ^ disks := Nat.lt_of_le_of_lt Nat.and_le_left hfirst
  rw [two_pow_add_eq_or hfirst, two_pow_add_eq_or hsecond, two_pow_add_eq_or hand,
    Nat.or_and_distrib_left]

theorem two_pow_add_or (hfirst : first < 2 ^ disks) (hsecond : second < 2 ^ disks) :
    (2 ^ disks + first) ||| (2 ^ disks + second) = 2 ^ disks + (first ||| second) := by
  have hor : first ||| second < 2 ^ disks := Nat.or_lt_two_pow hfirst hsecond
  rw [two_pow_add_eq_or hfirst, two_pow_add_eq_or hsecond, two_pow_add_eq_or hor]
  ac_rfl

/-- A power of two has no binary digit in common with the number before it. -/
theorem two_pow_and_pred (disks : Nat) : 2 ^ disks &&& (2 ^ disks - 1) = 0 := by
  rw [Nat.and_two_pow_sub_one_eq_mod, Nat.mod_self]

/-- Together they have all digits up to that of the power. -/
theorem two_pow_or_pred (disks : Nat) : (2 ^ disks ||| (2 ^ disks - 1)) + 1 = 2 ^ (disks + 1) := by
  have hpower := Nat.two_pow_pos disks
  rw [← two_pow_add_eq_or (by omega), Nat.pow_succ]
  omega

end Bits

/-! ### Pegs around a ring -/

/-- The peg with a given number: the source has the number `0`, and the target the number `1` if
the number of disks is even and the number `2` if it is odd. -/
def ringPeg (disks : Nat) (source target spare : Peg) : Nat → Peg
  | 0 => source
  | 1 => if Even disks then target else spare
  | _ => if Even disks then spare else target

/-- The move at a given position: it leads from the peg numbered by the binary digits that the
position shares with the one before it to the peg behind the one numbered by the digits that occur
in either, both modulo three. -/
def moveAt (disks : Nat) (source target spare : Peg) (position : Nat) : Move where
  source := ringPeg disks source target spare ((position &&& (position - 1)) % 3)
  target := ringPeg disks source target spare (((position ||| (position - 1)) + 1) % 3)

section Ring

variable (disks : Nat) (source target spare : Peg)

/-- Powers of two alternate modulo three. -/
theorem two_pow_mod_three : 2 ^ disks % 3 = if Even disks then 1 else 2 := by
  induction disks with
  | zero => rfl
  | succ disks ih =>
    rw [Nat.pow_succ, Nat.mul_mod, ih]
    by_cases heven : Even disks <;> simp [heven, Nat.even_add_one]

/-- The first smaller tower has its target and spare pegs exchanged, and its numbers are those of
the larger tower. -/
theorem ringPeg_leave (number : Nat) :
    ringPeg (disks + 1) source target spare number = ringPeg disks source spare target number := by
  unfold ringPeg
  by_cases heven : Even disks <;> simp [heven, Nat.even_add_one]

/-- The second smaller tower has the pegs turned around the ring, by as much as the power of two
adds to the numbers. -/
theorem ringPeg_follow (number : Nat) :
    ringPeg (disks + 1) source target spare ((2 ^ disks + number) % 3) =
      ringPeg disks spare target source (number % 3) := by
  have hnumber : number % 3 = 0 ∨ number % 3 = 1 ∨ number % 3 = 2 := by omega
  rw [Nat.add_mod, two_pow_mod_three]
  rcases hnumber with hnumber | hnumber | hnumber <;> by_cases heven : Even disks <;>
    simp [ringPeg, hnumber, heven, Nat.even_add_one]

/-- The power of two itself is the number of the target. -/
theorem ringPeg_two_pow : ringPeg disks source target spare (2 ^ disks % 3) = target := by
  rw [two_pow_mod_three]
  by_cases heven : Even disks <;> simp [ringPeg, heven]

theorem moveAt_leave (position : Nat) :
    moveAt (disks + 1) source target spare position =
      moveAt disks source spare target position := by
  simp only [moveAt, ringPeg_leave]

theorem moveAt_two_pow :
    moveAt (disks + 1) source target spare (2 ^ disks) = ⟨source, target⟩ := by
  rw [moveAt, two_pow_and_pred, two_pow_or_pred, ringPeg_two_pow]
  rfl

theorem moveAt_follow {position : Nat} (hposition : position ∈ positions disks) :
    moveAt (disks + 1) source target spare (2 ^ disks + position) =
      moveAt disks spare target source position := by
  obtain ⟨one_le, hlt⟩ := mem_positions.mp hposition
  have hpred : 2 ^ disks + position - 1 = 2 ^ disks + (position - 1) :=
    Nat.add_sub_assoc one_le _
  rw [moveAt, moveAt, hpred, two_pow_add_and hlt (by omega), two_pow_add_or hlt (by omega),
    Nat.add_assoc, ringPeg_follow, ringPeg_follow]

end Ring

/-- **The steps of a transfer are the moves at its positions.** -/
theorem steps_eq_map_moveAt (disks : Nat) (source target spare : Peg) :
    steps disks source target spare = (positions disks).map (moveAt disks source target spare) := by
  induction disks generalizing source target spare with
  | zero => rfl
  | succ disks ih =>
    have hleave : (positions disks).map (moveAt (disks + 1) source target spare) =
        steps disks source spare target := by
      rw [ih, funext (moveAt_leave disks source target spare)]
    have hfollow : ((positions disks).map (2 ^ disks + ·)).map
        (moveAt (disks + 1) source target spare) = steps disks spare target source := by
      rw [ih, List.map_map]
      exact List.map_congr_left fun position hposition =>
        moveAt_follow disks source target spare hposition
    rw [steps, positions_succ, List.map_append, List.map_append, hleave, hfollow,
      List.map_singleton, moveAt_two_pow]

/-- **Every move is known from its position.** For any three pegs, the moves that a transfer
records, `2 ^ disks - 1` in number, are at each position those that the binary digits of the
position give, and a sink is asked to record just these, in the order of their positions. The
solution of a puzzle consists of them as well. -/
theorem transferred_at_position (disks : Nat) (source target spare : Peg) :
    (transferred disks source target spare).length = 2 ^ disks - 1 ∧
    (∀ position, 1 ≤ position → position ≤ 2 ^ disks - 1 →
      (transferred disks source target spare)[position - 1]? =
        some (moveAt disks source target spare position)) ∧
    (∀ {σ ε : Type} (record : Move → σ → Except ε Unit × σ) (state : σ),
      (transfer (.ofRecord record) disks source target spare).run.run state =
        feed record ((positions disks).map (moveAt disks source target spare)) state) ∧
    ∀ puzzle : Puzzle, puzzle.disks.toNat = disks → puzzle.disks ≤ 64 →
      puzzle.pegs = ⟨source, target, spare⟩ →
      ∀ {σ ε : Type} (record : Move → σ → Except ε Unit × σ) (state : σ),
        (solve (.ofRecord record) puzzle).run.run state =
          Prod.map (Except.mapError .sink) id
            (feed record ((positions disks).map (moveAt disks source target spare)) state) := by
  rw [transferred_eq_steps, ← steps_eq_map_moveAt]
  refine ⟨length_steps disks source target spare, fun position one_le le => ?_,
    fun record state => transfer_ofRecord record disks source target spare state, ?_⟩
  · have hpower := Nat.two_pow_pos disks
    have hposition : position ∈ positions disks := mem_positions.mpr ⟨one_le, by omega⟩
    rw [steps_eq_map_moveAt, getElem?_map_positions _ hposition]
  · rintro ⟨count, pegs⟩ rfl bound rfl _ _ record state
    exact solve_ofRecord record bound state

/-- The eleventh move of four disks goes back from the destination, since `11` and `10` have the
binary digits of `10` in common and those of `11` together; a sink with room for two moves gets the
first two moves of two disks. -/
theorem transferred_at_position_eleven :
    (transferred 4 Pegs.standard.source Pegs.standard.destination
      Pegs.standard.auxiliary)[11 - 1]? =
        some ⟨Pegs.standard.destination, Pegs.standard.source⟩ ∧
    (solve (.ofRecord fun _ room => if room = 0 then (.error "full", room) else (.ok (), room - 1))
      ⟨2, .standard⟩).run.run 2 = (.error (.sink "full"), 0) :=
  ⟨(transferred_at_position 4 _ _ _).2.1 11 (by decide) (by decide),
    ((transferred_at_position 2 _ _ _).2.2.2 ⟨2, .standard⟩ rfl (by decide) rfl _ 2).trans rfl⟩

end TowerOfHanoi
