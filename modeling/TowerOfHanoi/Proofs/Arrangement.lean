import Mathlib.Algebra.Group.Nat.Defs
import TowerOfHanoi.Proofs.Towers

/-!
# Where every disk stands

The towers of the disks from `1` to some largest one are known as soon as it is known on which
peg every disk stands, since legal towers have their disks in order. Seen in this way, a legal
move lifts a disk for which all smaller disks are on the third peg, and the larger disks play no
part. So a list of moves that never lifts a disk above the `n`-th is a walk of the first `n`
disks, whatever else there is.

## Main definitions

* `Arrangement`: the peg of every disk, with `Arrangement.towers` for the towers it describes.
* `Arrangement.Hop`: a disk changes its peg, with no smaller disk on either of the two pegs.
* `Arrangement.Walk`: the first disks change their pegs one by one.

## Main results

* `Arrangement.exists_hop`, `Arrangement.exists_walk`: legal moves between different pegs are
  hops, and lists of them are walks.
* `Arrangement.Walk.split_first`, `Arrangement.Walk.split_last`: where the largest disk moves for
  the first and for the last time.
-/

namespace TowerOfHanoi

/-- The peg on which every disk stands. -/
abbrev Arrangement := Nat → Peg

namespace Arrangement

/-- The towers of the disks from `1` to `disks`. -/
def towers (place : Arrangement) (disks : Nat) : Towers :=
  fun peg => (List.range' 1 disks).filter fun disk => place disk = peg

/-- All disks from `1` to `disks` stand on one peg. -/
def Gathered (place : Arrangement) (disks : Nat) (peg : Peg) : Prop :=
  ∀ disk, 1 ≤ disk → disk ≤ disks → place disk = peg

/-- The disk can make the move: it stands on the source, no smaller disk stands on the source or
on the target, and the two are different pegs. -/
structure Hop (place : Arrangement) (disk : Nat) (move : Move) : Prop where
  /-- The disk is on the source. -/
  place_eq : place disk = move.source
  /-- The disk goes elsewhere. -/
  source_ne_target : move.source ≠ move.target
  /-- No smaller disk is on its way. -/
  place_ne : ∀ smaller, 1 ≤ smaller → smaller < disk →
    place smaller ≠ move.source ∧ place smaller ≠ move.target

/-- The moves take the disks from `1` to `disks` from one arrangement to another. Larger disks
may be anywhere and are never moved. -/
inductive Walk (disks : Nat) : Arrangement → List Move → Arrangement → Prop
  /-- Nothing moves. -/
  | nil (place : Arrangement) : Walk disks place [] place
  /-- One of the disks makes the first move. -/
  | cons {place after : Arrangement} {move : Move} {rest : List Move} (disk : Nat)
      (one_le : 1 ≤ disk) (le : disk ≤ disks) (hop : Hop place disk move)
      (walk : Walk disks (Function.update place disk move.target) rest after) :
      Walk disks place (move :: rest) after

variable {place after : Arrangement} {disks : Nat}

/-! ### Arrangements and towers -/

theorem mem_towers {disk : Nat} {peg : Peg} :
    disk ∈ place.towers disks peg ↔ (1 ≤ disk ∧ disk ≤ disks) ∧ place disk = peg := by
  rw [towers, List.mem_filter, List.mem_range'_1, decide_eq_true_iff, Nat.lt_one_add_iff]

theorem legal_towers (place : Arrangement) (disks : Nat) : (place.towers disks).Legal :=
  fun _ => List.Pairwise.filter _ List.pairwise_lt_range'

theorem single_eq_towers (disks : Nat) (peg : Peg) :
    Towers.single disks peg = towers (fun _ => peg) disks := by
  funext other
  by_cases h : other = peg
  · rw [h, Towers.single_self, towers, List.filter_eq_self.mpr (by simp)]
  · rw [Towers.single_of_ne disks h, towers, List.filter_eq_nil_iff.mpr (by simp [Ne.symm h])]

theorem gathered_of_towers_eq_single {peg : Peg}
    (h : place.towers disks = Towers.single disks peg) : place.Gathered disks peg := by
  intro disk one_le le
  have hmem : disk ∈ place.towers disks (place disk) := mem_towers.mpr ⟨⟨one_le, le⟩, rfl⟩
  rw [h, single_eq_towers] at hmem
  exact (mem_towers.mp hmem).2.symm

/-- The disk that lies on top of a peg, and the disks below it. -/
theorem mem_cons_iff {disk : Nat} {below : List Nat} {peg : Peg}
    (hpeg : place.towers disks peg = disk :: below) {other : Nat} :
    other = disk ∨ other ∈ below ↔ (1 ≤ other ∧ other ≤ disks) ∧ place other = peg := by
  rw [← mem_towers, hpeg, List.mem_cons]

/-- When the top disk of a peg goes to another peg, the towers are those of the arrangement in
which it stands there. -/
theorem towers_update {source target : Peg} (hne : source ≠ target) {disk : Nat}
    {below : List Nat} (hsource : place.towers disks source = disk :: below)
    (htarget : ∀ other ∈ place.towers disks target, disk < other) :
    towers (Function.update place disk target) disks =
      Function.update (Function.update (place.towers disks) source below) target
        (disk :: place.towers disks target) := by
  have hlegal := (legal_towers place disks).step? (Towers.step?_of_lt hne hsource htarget)
  have hbelow : disk ∉ below := fun hmem => lt_irrefl disk
    ((List.pairwise_cons.mp (hsource ▸ legal_towers place disks source)).1 disk hmem)
  obtain ⟨hrange, hplace⟩ := (mem_cons_iff hsource).mp (.inl rfl)
  -- Both towers are in order on every peg, so it is enough that they have the same disks.
  funext peg
  refine (legal_towers _ _ peg).eq_of_mem_iff (hlegal peg) fun other => ?_
  rw [mem_towers]
  by_cases hpeg : peg = target
  · subst hpeg
    rw [Function.update_self, List.mem_cons, mem_towers]
    by_cases hdisk : other = disk
    · subst hdisk
      rw [Function.update_self]
      exact iff_of_true ⟨hrange, rfl⟩ (.inl rfl)
    · rw [Function.update_of_ne hdisk, or_iff_right hdisk]
  · rw [Function.update_of_ne hpeg]
    by_cases hdisk : other = disk
    · subst hdisk
      rw [Function.update_self, iff_false_left fun hon => hpeg hon.2.symm]
      by_cases hsame : peg = source
      · rwa [hsame, Function.update_self]
      · rw [Function.update_of_ne hsame, mem_towers, hplace]
        exact fun hon => hsame hon.2.symm
    · rw [Function.update_of_ne hdisk]
      by_cases hsame : peg = source
      · rw [hsame, Function.update_self, ← mem_cons_iff hsource, or_iff_right hdisk]
      · rw [Function.update_of_ne hsame, mem_towers]

/-- A legal move between different pegs is a hop of one of the disks. -/
theorem exists_hop {move : Move} {after : Towers} (hne : move.source ≠ move.target)
    (h : (place.towers disks).step? move = some after) :
    ∃ disk, 1 ≤ disk ∧ disk ≤ disks ∧ Hop place disk move ∧
      after = towers (Function.update place disk move.target) disks := by
  obtain ⟨disk, below, hsource, htop, rfl⟩ := Towers.step?_eq_some_iff.mp h
  rw [Function.update_of_ne hne.symm] at htop ⊢
  have htarget := (legal_towers place disks).lt_of_lt_top htop
  have hbelow := (List.pairwise_cons.mp (hsource ▸ legal_towers place disks move.source)).1
  obtain ⟨⟨one_le, le⟩, hplace⟩ := (mem_cons_iff hsource).mp (.inl rfl)
  refine ⟨disk, one_le, le, ⟨hplace, hne, fun smaller hone hlt => ⟨fun hon => ?_, fun hon => ?_⟩⟩,
    (towers_update hne hsource htarget).symm⟩
  · rcases (mem_cons_iff hsource).mpr ⟨⟨hone, hlt.le.trans le⟩, hon⟩ with rfl | hmem
    · exact lt_irrefl _ hlt
    · exact lt_asymm hlt (hbelow smaller hmem)
  · exact lt_asymm hlt (htarget smaller (mem_towers.mpr ⟨⟨hone, hlt.le.trans le⟩, hon⟩))

/-- A list of legal moves between different pegs is a walk. -/
theorem exists_walk {moves : List Move} {after : Towers}
    (hne : ∀ move ∈ moves, move.source ≠ move.target)
    (h : (place.towers disks).replay? moves = some after) :
    ∃ place', Walk disks place moves place' ∧ after = towers place' disks := by
  induction moves generalizing place with
  | nil => exact ⟨place, .nil place, (Option.some.inj h).symm⟩
  | cons move rest ih =>
    obtain ⟨next, hmove, hrest⟩ := Option.bind_eq_some_iff.mp h
    obtain ⟨disk, one_le, le, hop, rfl⟩ := exists_hop (hne move List.mem_cons_self) hmove
    obtain ⟨place', walk, hafter⟩ := ih (fun other hother => hne other
      (List.mem_cons_of_mem _ hother)) hrest
    exact ⟨place', .cons disk one_le le hop walk, hafter⟩

/-! ### Walks -/

theorem update_mem {pegs : List Peg} (hplace : ∀ disk, place disk ∈ pegs) {peg : Peg}
    (hpeg : peg ∈ pegs) (moved disk : Nat) : Function.update place moved peg disk ∈ pegs := by
  by_cases h : disk = moved
  · rwa [h, Function.update_self]
  · rw [Function.update_of_ne h]
    exact hplace disk

namespace Walk

variable {moves : List Move}

/-- Larger disks stay where they are. -/
theorem place_eq_of_lt (walk : Walk disks place moves after) {disk : Nat} (hlt : disks < disk) :
    after disk = place disk := by
  induction walk with
  | nil => rfl
  | cons moved one_le le hop walk ih =>
    rw [ih, Function.update_of_ne (le.trans_lt hlt).ne']

/-- Every disk stays on the pegs on which it is and to which moves go. -/
theorem place_mem {pegs : List Peg} (walk : Walk disks place moves after)
    (hplace : ∀ disk, place disk ∈ pegs) (hmoves : ∀ move ∈ moves, move.target ∈ pegs) :
    ∀ disk, after disk ∈ pegs := by
  induction walk with
  | nil => exact hplace
  | @cons place after move rest moved one_le le hop walk ih =>
    exact ih (update_mem hplace (hmoves move List.mem_cons_self) moved)
      fun other hother => hmoves other (List.mem_cons_of_mem _ hother)

/-- Either the largest disk never moves, or there is a first time: before it only the smaller
disks move. -/
theorem split_first (walk : Walk (disks + 1) place moves after) :
    Walk disks place moves after ∨
      ∃ before move rest during, moves = before ++ move :: rest ∧
        Walk disks place before during ∧ Hop during (disks + 1) move ∧
        Walk (disks + 1) (Function.update during (disks + 1) move.target) rest after := by
  induction walk with
  | nil place => exact .inl (.nil place)
  | @cons place after move rest disk one_le le hop walk ih =>
    by_cases hlargest : disk = disks + 1
    · subst hlargest
      exact .inr ⟨[], move, rest, place, rfl, .nil place, hop, walk⟩
    · have hle : disk ≤ disks := by omega
      rcases ih with hall | ⟨before, first, tail, during, rfl, hbefore, hfirst, htail⟩
      · exact .inl (.cons disk one_le hle hop hall)
      · exact .inr ⟨move :: before, first, tail, during, rfl,
          .cons disk one_le hle hop hbefore, hfirst, htail⟩

/-- Either the largest disk never moves, or there is a last time: after it only the smaller
disks move. -/
theorem split_last (walk : Walk (disks + 1) place moves after) :
    Walk disks place moves after ∨
      ∃ before move rest during, moves = before ++ move :: rest ∧
        Walk (disks + 1) place before during ∧ Hop during (disks + 1) move ∧
        Walk disks (Function.update during (disks + 1) move.target) rest after := by
  induction walk with
  | nil place => exact .inl (.nil place)
  | @cons place after move rest disk one_le le hop walk ih =>
    rcases ih with hall | ⟨before, last, tail, during, rfl, hbefore, hlast, htail⟩
    · by_cases hlargest : disk = disks + 1
      · subst hlargest
        exact .inr ⟨[], move, rest, place, rfl, .nil place, hop, hall⟩
      · exact .inl (.cons disk one_le (by omega) hop hall)
    · exact .inr ⟨move :: before, last, tail, during, rfl,
        .cons disk one_le le hop hbefore, hlast, htail⟩

end Walk

end Arrangement

end TowerOfHanoi
