import TowerOfHanoi.Listing
import TowerOfHanoi.Proofs.Streaming

/-!
# What a choosy listing keeps

A listing accepts a move as long as it has room for it and the move has no peg that is refused. Of
the moves that it is given, it keeps those in front of the first one that it does not accept, and
the reason that it tells is about that one: there is no room, or else a peg is refused. So what is
listed of a solution is the solution as far as it is accepted, and the rest is not looked for.

## Main definitions

* `Listing.HasRoom`, `Listing.Wants`: why a move is accepted.
* `Listing.Kept`: what has become of moves that a listing has been given.

## Main results

* `Listing.kept_feed`: a listing keeps the moves in front of the first one that it does not accept.
* `Listing.kept_fill`: it does so with the solution of a puzzle.
* `Listing.fill_eq_ok_iff`: when it keeps the whole solution.
-/

namespace TowerOfHanoi.Listing

variable {listing : Listing} {kept : Array Move} {move : Move} {moves : List Move}

/-- There is room for one more move beside so many. -/
def HasRoom (listing : Listing) (kept : Nat) : Prop :=
  ∀ limit, listing.limit = some limit → kept < limit

/-- A move has no peg that is refused. -/
def Wants (listing : Listing) (move : Move) : Prop :=
  listing.refusedSource ≠ some move.source ∧ listing.refusedTarget ≠ some move.target

/-- Moves are accepted, one after the other, beside so many already kept. -/
def Accepts (listing : Listing) (kept : Nat) (moves : List Move) : Prop :=
  ∀ front move rest, moves = front ++ move :: rest →
    listing.HasRoom (kept + front.length) ∧ listing.Wants move

theorem isFull_eq_true_iff {count : Nat} :
    listing.isFull count = true ↔ ¬ listing.HasRoom count := by
  unfold isFull HasRoom
  cases listing.limit <;> simp

theorem refuses_eq_true_iff : listing.refuses move = true ↔ ¬ listing.Wants move := by
  unfold refuses Wants
  rw [Bool.or_eq_true, decide_eq_true_eq, decide_eq_true_eq,
    Decidable.not_and_iff_not_or_not, Decidable.not_not, Decidable.not_not]

theorem accepts_nil (count : Nat) : listing.Accepts count [] := by
  intro front move rest h
  cases front <;> cases h

theorem Accepts.cons {count : Nat} (hroom : listing.HasRoom count) (hwants : listing.Wants move)
    (haccepts : listing.Accepts (count + 1) moves) : listing.Accepts count (move :: moves) := by
  intro front last rest h
  cases front with
  | nil =>
    cases h
    exact ⟨hroom, hwants⟩
  | cons first front =>
    cases h
    have hlast := haccepts front last rest rfl
    rwa [Nat.add_assoc, Nat.add_comm 1] at hlast

/-- What has become of moves that a listing has been given: it has kept all of them, or those in
front of one that it does not accept. -/
inductive Kept (listing : Listing) (kept : Array Move) (moves : List Move) :
    Except Refusal Unit × Array Move → Prop
  /-- All the moves are there. -/
  | all (accepts : listing.Accepts kept.size moves) :
      Kept listing kept moves (.ok (), kept ++ moves)
  /-- There was no room for the next one. -/
  | full {front rest : List Move} {move : Move} (split : moves = front ++ move :: rest)
      (accepts : listing.Accepts kept.size front)
      (noRoom : ¬ listing.HasRoom (kept.size + front.length)) :
      Kept listing kept moves (.error .full, kept ++ front)
  /-- There was room for the next one, but it had a peg that is refused. -/
  | unwanted {front rest : List Move} {move : Move} (split : moves = front ++ move :: rest)
      (accepts : listing.Accepts kept.size front)
      (room : listing.HasRoom (kept.size + front.length)) (refused : ¬ listing.Wants move) :
      Kept listing kept moves (.error .unwanted, kept ++ front)

/-- A move that is kept comes in front of what has become of the others. -/
theorem Kept.cons {outcome : Except Refusal Unit × Array Move} (hroom : listing.HasRoom kept.size)
    (hwants : listing.Wants move) (hkept : Kept listing (kept.push move) moves outcome) :
    Kept listing kept (move :: moves) outcome := by
  have hpush (front : List Move) : kept.push move ++ front = kept ++ (move :: front) := by
    rw [← Array.toList_inj]
    simp
  have haccepts {front : List Move} (h : listing.Accepts (kept.push move).size front) :
      listing.Accepts kept.size (move :: front) := by
    rw [Array.size_push] at h
    exact h.cons hroom hwants
  have hsize (front : List Move) :
      (kept.push move).size + front.length = kept.size + (move :: front).length := by
    rw [Array.size_push, List.length_cons]
    omega
  cases hkept with
  | all accepts =>
    rw [hpush]
    exact .all (haccepts accepts)
  | @full front rest next split accepts noRoom =>
    rw [hsize] at noRoom
    rw [hpush, split]
    exact .full rfl (haccepts accepts) noRoom
  | @unwanted front rest next split accepts room refused =>
    rw [hsize] at room
    rw [hpush, split]
    exact .unwanted rfl (haccepts accepts) room refused

/-- A listing keeps the moves in front of the first one that it does not accept. -/
theorem kept_feed (listing : Listing) (moves : List Move) (kept : Array Move) :
    Kept listing kept moves (feed listing.keep moves kept) := by
  have hnone (kept : Array Move) : kept ++ ([] : List Move) = kept := by simp
  induction moves generalizing kept with
  | nil =>
    have hall : Kept listing kept [] (.ok (), kept ++ []) := .all (accepts_nil kept.size)
    rwa [hnone] at hall
  | cons move rest ih =>
    rw [feed, keep]
    by_cases hroom : listing.HasRoom kept.size
    · rw [if_neg (mt isFull_eq_true_iff.mp (not_not_intro hroom))]
      by_cases hwants : listing.Wants move
      · rw [if_neg (mt refuses_eq_true_iff.mp (not_not_intro hwants))]
        exact (ih (kept.push move)).cons hroom hwants
      · rw [if_pos (refuses_eq_true_iff.mpr hwants)]
        have hrefused : Kept listing kept (move :: rest) (.error .unwanted, kept ++ []) :=
          .unwanted rfl (accepts_nil kept.size) hroom hwants
        rwa [hnone] at hrefused
    · rw [if_pos (isFull_eq_true_iff.mpr hroom)]
      have hfull : Kept listing kept (move :: rest) (.error .full, kept ++ []) :=
        .full rfl (accepts_nil kept.size) hroom
      rwa [hnone] at hfull

section Fill

variable {puzzle : Puzzle} (bound : puzzle.disks ≤ Puzzle.maxDisks)

include bound

/-- A puzzle is listed by giving its steps to the listing. -/
theorem fill_eq (listing : Listing) (kept : Array Move) :
    listing.fill puzzle kept =
      Prod.map (Except.mapError .sink) id (feed listing.keep puzzle.steps kept) :=
  solve_ofRecord listing.keep bound kept

/-- **A listing keeps the solution of a puzzle as far as it accepts it.** -/
theorem kept_fill (listing : Listing) (kept : Array Move) :
    ∃ outcome, Kept listing kept puzzle.steps outcome ∧
      listing.fill puzzle kept = Prod.map (Except.mapError .sink) id outcome :=
  ⟨_, kept_feed listing puzzle.steps kept, fill_eq bound listing kept⟩

/-- It keeps the whole solution if it accepts all its moves, and then they are all there. -/
theorem fill_eq_ok_iff (listing : Listing) (kept after : Array Move) :
    listing.fill puzzle kept = (.ok (), after) ↔
      listing.Accepts kept.size puzzle.steps ∧ after = kept ++ puzzle.steps := by
  obtain ⟨outcome, hkept, hfill⟩ := kept_fill bound listing kept
  rw [hfill]
  cases hkept with
  | all accepts =>
    constructor
    · intro h
      cases h
      exact ⟨accepts, rfl⟩
    · rintro ⟨-, rfl⟩
      rfl
  | full split accepts noRoom =>
    constructor
    · intro h
      cases h
    · rintro ⟨hall, -⟩
      exact absurd (hall _ _ _ split).1 noRoom
  | unwanted split accepts room refused =>
    constructor
    · intro h
      cases h
    · rintro ⟨hall, -⟩
      exact absurd (hall _ _ _ split).2 refused

end Fill

end TowerOfHanoi.Listing
