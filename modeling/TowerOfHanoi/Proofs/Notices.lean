import TowerOfHanoi.Proofs.Checks
import TowerOfHanoi.Proofs.Lifts
import TowerOfHanoi.PuzzleText

/-!
# What an observer is told

A transfer tells the observer about itself before it begins, and hands over the move of its largest
disk when the smaller ones are out of the way. So the notices come in another order than the moves:
each transfer is announced in front of the two transfers that it consists of, while its own move is
recorded between them. Yet a transfer is known by its largest disk, and of the transfers with the
same largest disk none is a part of another. Level by level, notices and moves therefore come in the
same order. Which disk a move lifts is told by replaying the moves on their tower.

An observer sees of a notice what it carries by name. The values of a transfer say how many disks
are moved and between which pegs, and they can be read back, so that nothing about the transfer is
lost.

## Main definitions

* `keeping`: the observer that keeps what it is told, up to a level of detail.
* `Notice.value?`, `Notice.lift?`: a value by its name, and the transfer that the values tell.
* `announced`: the transfers that a transfer announces, each as what its own move lifts.
* `Followed`: a list in which every larger disk is followed by the next smaller one.

## Main results

* `Puzzle.parseNoting_eq`: reading a puzzle tells of it behind all the checks, in every monad.
* `run_transfer_keeper`: what a transfer tells and what it keeps, in every monad.
* `Notice.lift?_notice`: the values of a transfer tell what its own move lifts.
* `filter_announced`: the transfers of one level are announced in the order of their moves.
* `followed_announced`: a transfer is followed by the transfer that makes room for it.
* `notices_mirror_moves`: the notices of a puzzle, beside the list of its moves.
-/

namespace TowerOfHanoi

/-! ### Observers -/

/-- The observer that keeps the notices up to a level, in order. -/
def keeping (upTo : Level) (notice : Notice) : StateM (List Notice) Unit :=
  if notice.level.within upTo then modify (· ++ [notice]) else pure ()

/-- The notices beyond the level are left out. -/
theorem run_forM_keeping (upTo : Level) (notices kept : List Notice) :
    (notices.forM (keeping upTo)).run kept =
      ((), kept ++ notices.filter (·.level.within upTo)) := by
  induction notices generalizing kept with
  | nil => rw [List.filter_nil, List.append_nil]; rfl
  | cons notice rest ih =>
    rw [List.forM_eq_forM, List.forM_cons, StateT.run_bind, keeping, List.filter_cons]
    split
    · rw [List.append_cons]
      exact ih (kept ++ [notice])
    · exact ih kept

theorem Level.within_trace (level : Level) : level.within .trace := by
  cases level <;> decide

/-- Nothing is more detailed than the last level. -/
theorem run_forM_keeping_trace (notices kept : List Notice) :
    (notices.forM (keeping .trace)).run kept = ((), kept ++ notices) := by
  rw [run_forM_keeping, List.filter_eq_self.mpr fun _ _ => Level.within_trace _]

/-! ### The transfers that are announced -/

/-- What is lifted by the moves of the transfers that a transfer consists of, in the order in which
they are announced: each one in front of its parts. -/
def announced : (disks : Nat) → (source target spare : Peg) → List Lift
  | 0, _, _, _ => []
  | disks + 1, source, target, spare =>
    ⟨disks + 1, ⟨source, target⟩⟩ ::
      (announced disks source spare target ++ announced disks spare target source)

/-- The notice of the transfer whose own move lifts a disk. -/
def Lift.notice (lift : Lift) : Notice :=
  .transfer lift.disk lift.move.source lift.move.target

/-- The transfers that are announced when a puzzle is solved. -/
def Puzzle.announced (puzzle : Puzzle) : List Lift :=
  TowerOfHanoi.announced puzzle.disks.toNat puzzle.pegs.source puzzle.pegs.destination
    puzzle.pegs.auxiliary

/-! ### The values of a notice -/

namespace Notice

/-- The value that a notice carries under a name. -/
def value? (notice : Notice) (name : String) : Option String :=
  notice.fields.lookup name

/-- The number that a value is in decimal. -/
def number? (notice : Notice) (name : String) : Option Nat := do
  let digits := (← notice.value? name).toList
  if digits.all Char.isDigit then some (Nat.ofDigitChars 10 digits 0) else none

/-- The peg whose label a value is. -/
def peg? (notice : Notice) (name : String) : Option Peg := do
  (Peg.ofToken (← notice.value? name)).toOption

/-- What is lifted by the own move of the transfer that the values of a notice tell. -/
def lift? (notice : Notice) : Option Lift :=
  if notice.message = "transfer" then do
    return ⟨← notice.number? "disks", ⟨← notice.peg? "from", ← notice.peg? "to"⟩⟩
  else none

theorem number?_eq_some {notice : Notice} {name : String} {number : Nat}
    (hvalue : notice.value? name = some (toString number)) : notice.number? name = some number := by
  have hdigits : (toString number).toList.all Char.isDigit = true := by
    rw [Nat.toString_eq_repr, Nat.toList_repr, List.all_eq_true]
    exact fun c hc => Nat.isDigit_of_mem_toDigits (by decide) (by decide) hc
  rw [number?, hvalue]
  change (if (toString number).toList.all Char.isDigit then _ else none) = _
  rw [if_pos hdigits, Nat.toString_eq_repr, Nat.toList_repr, Nat.ofDigitChars_ten_toDigits]

theorem peg?_eq_some {notice : Notice} {name : String} {peg : Peg}
    (hvalue : notice.value? name = some peg.text) : notice.peg? name = some peg := by
  rw [peg?, hvalue]
  change (Peg.ofToken peg.text).toOption = _
  rw [Peg.ofToken_text]
  rfl

/-- **The values of a transfer tell what its own move lifts**, whatever disk and pegs they are. -/
theorem lift?_notice (lift : Lift) : lift.notice.lift? = some lift := by
  have hdisk : lift.notice.number? "disks" = some lift.disk := number?_eq_some rfl
  have hsource : lift.notice.peg? "from" = some lift.move.source := peg?_eq_some rfl
  have htarget : lift.notice.peg? "to" = some lift.move.target := peg?_eq_some rfl
  have hmessage : lift.notice.message = "transfer" := rfl
  rw [lift?, if_pos hmessage, hdisk, hsource, htarget]
  rfl

end Notice

/-- What is told of a puzzle that is solved tells its transfers. -/
theorem filterMap_lift?_solving (puzzle : Puzzle) (calls : List Lift) :
    (Notice.solving puzzle :: calls.map Lift.notice).filterMap Notice.lift? = calls := by
  have hsolving : (Notice.solving puzzle).lift? = none := rfl
  rw [List.filterMap_cons_none hsolving, List.filterMap_map]
  refine (List.filterMap_congr fun lift _ => Notice.lift?_notice lift).trans ?_
  exact List.filterMap_some

section Monadic

variable {m : Type → Type} [Monad m] (observe : Notice → m Unit)

theorem collectNoting_of_lt {puzzle : Puzzle} (excess : maxCollectedDisks < puzzle.disks) :
    collectNoting observe puzzle = return .error (.tooManyDisks puzzle.disks maxCollectedDisks) :=
  if_pos excess

variable [LawfulMonad m]

/-- What follows a program that succeeds starts with the state that the program leaves. -/
theorem run_bind_of_run_eq {σ ε α β : Type} {program : ExceptT ε (StateT σ m) α}
    {next : α → ExceptT ε (StateT σ m) β} {effect : m Unit} {value : α} {before after : σ}
    (h : program.run.run before = effect >>= fun _ => pure (.ok value, after)) :
    (program >>= next).run.run before = effect >>= fun _ => (next value).run.run after := by
  rw [ExceptT.run_bind, StateT.run_bind, h, bind_assoc]
  simp only [pure_bind]

section Keeper

variable {σ : Type} (push : Move → σ → σ)

theorem run_lift_observe {ε : Type} (notice : Notice) (kept : σ) :
    (ExceptT.lift ((keeper push observe).observe notice) : ExceptT ε _ Unit).run.run kept =
      observe notice >>= fun _ => pure (.ok (), kept) := by
  simp [keeper]

theorem run_record_keeper (move : Move) (kept : σ) :
    ((keeper push observe).record move).run.run kept =
      pure () >>= fun _ => pure (.ok (), push move kept) := by
  simp [keeper]

/-- **What a transfer tells and what it keeps.** It announces its transfers and keeps its steps. -/
theorem run_transfer_keeper (disks : Nat) (source target spare : Peg) (kept : σ) :
    (transfer (keeper push observe) disks source target spare).run.run kept = do
      ((announced disks source target spare).map Lift.notice).forM observe
      return (.ok (), (steps disks source target spare).foldl (fun kept move => push move kept)
        kept) := by
  induction disks generalizing source target spare kept with
  | zero => simp [transfer, announced, steps]
  | succ disks ih =>
    rw [transfer, run_bind_of_run_eq (run_lift_observe observe push _ kept),
      run_bind_of_run_eq (ih source spare target kept),
      run_bind_of_run_eq (run_record_keeper observe push _ _), ih]
    simp [announced, steps, Lift.notice]

end Keeper

theorem collectNoting_of_le {puzzle : Puzzle} (bound : puzzle.disks ≤ maxCollectedDisks) :
    collectNoting observe puzzle = do
      (Notice.solving puzzle :: puzzle.announced.map Lift.notice).forM observe
      return collect puzzle := by
  have within : puzzle.disks ≤ Puzzle.maxDisks := UInt32.le_trans bound (by decide)
  have hadapt {program : ExceptT Empty (StateT Collected m) Unit} :
      (ExceptT.adapt SolveError.sink program).run =
        Except.mapError SolveError.sink <$> program.run :=
    rfl
  rw [collect_eq_ok bound, collectNoting, if_neg (UInt32.not_lt.mpr bound), solve,
    if_neg (UInt32.not_lt.mpr within), run_bind_of_run_eq (run_lift_observe observe _ _ _), hadapt,
    StateT.run_map, run_transfer_keeper]
  simp [Puzzle.announced, Puzzle.steps, Except.mapError, Except.map]

theorem movesNoting_of_le {puzzle : Puzzle} (bound : puzzle.disks ≤ maxCollectedDisks) :
    movesNoting observe puzzle = do
      (Notice.solving puzzle :: puzzle.announced.map Lift.notice).forM observe
      return moves puzzle := by
  rw [movesNoting, collectNoting_of_le observe bound, moves_eq_map_collect]
  simp

/-! ### Reading a puzzle -/

/-- **Reading a puzzle tells of it behind all the checks.** A fault ends it before that. -/
theorem Puzzle.parseNoting_eq (text : String) :
    parseNoting observe text = match parse text with
      | .ok puzzle => observe (.parsed puzzle) >>= fun _ => pure (.ok puzzle)
      | .error error => pure (.error error) := by
  rw [parse_eq, parseNoting]
  rcases Text.words text with _ | ⟨token, labels⟩
  · rfl
  · simp only [run_check_bind]
    rcases parseDisks token with error | disks
    · rfl
    · rcases Pegs.ofLabels labels with error | pegs
      · rfl
      · simp [Except.bind, Except.map]

end Monadic

/-! ### The order of the announcements -/

/-- The same transfers are announced that lift something, in another order. -/
theorem announced_perm (disks : Nat) (source target spare : Peg) :
    (announced disks source target spare).Perm (lifts disks source target spare) := by
  induction disks generalizing source target spare with
  | zero => exact .nil
  | succ disks ih =>
    have hparts := (ih source spare target).append (ih spare target source)
    rw [announced, lifts, List.append_assoc, List.singleton_append]
    exact (hparts.cons _).trans List.perm_middle.symm

theorem length_announced (disks : Nat) (source target spare : Peg) :
    (announced disks source target spare).length = 2 ^ disks - 1 := by
  rw [(announced_perm disks source target spare).length_eq, ← List.length_map Lift.move,
    map_move_lifts, length_steps]

/-- **The transfers of one level are announced in the order of their moves.** -/
theorem filter_announced (disk disks : Nat) (source target spare : Peg) :
    (announced disks source target spare).filter (·.disk = disk) =
      (lifts disks source target spare).filter (·.disk = disk) := by
  induction disks generalizing source target spare with
  | zero => rfl
  | succ disks ih =>
    rw [announced, lifts, List.filter_cons, List.filter_append, List.filter_append,
      List.filter_append, ih, ih]
    by_cases hlargest : disks + 1 = disk
    · -- The parts of a transfer have smaller disks only.
      have hnone (source target spare : Peg) :
          (lifts disks source target spare).filter (·.disk = disk) = [] := by
        refine List.filter_eq_nil_iff.mpr fun lift hlift => ?_
        have hle := disk_le_of_mem_lifts hlift
        simp only [decide_eq_true_eq]
        omega
      simp [hnone, hlargest]
    · simp [hlargest]

theorem length_filter_lifts {disk disks : Nat} (one_le : 1 ≤ disk) (le : disk ≤ disks)
    (source target spare : Peg) :
    ((lifts disks source target spare).filter (·.disk = disk)).length = 2 ^ (disks - disk) := by
  rw [← count_ruler one_le le, ← map_disk_lifts disks source target spare, List.count,
    List.countP_map, List.countP_eq_length_filter]
  congr

/-! ### What follows an announcement -/

/-- Every disk but the smallest is followed by the next smaller one, lifted from the same peg. -/
def Followed (calls : List Lift) : Prop :=
  ∀ before call after, calls = before ++ call :: after → 1 < call.disk →
    ∃ next rest, after = next :: rest ∧ next.disk + 1 = call.disk ∧
      next.move.source = call.move.source

theorem Followed.append {calls more : List Lift} (hcalls : Followed calls) (hmore : Followed more) :
    Followed (calls ++ more) := by
  intro before call after h hlarge
  rcases List.append_eq_append_iff.mp h with ⟨skipped, rfl, hrest⟩ | ⟨rest, rfl, hrest⟩
  · exact hmore skipped call after hrest hlarge
  · cases rest with
    | nil => exact hmore [] call after hrest.symm hlarge
    | cons first rest =>
      obtain ⟨rfl, rfl⟩ := List.cons.inj hrest
      obtain ⟨next, rest, rfl, hnext⟩ := hcalls before call rest rfl hlarge
      exact ⟨next, rest ++ more, rfl, hnext⟩

/-- **A transfer is followed by the transfer that makes room for it.** -/
theorem followed_announced (disks : Nat) (source target spare : Peg) :
    Followed (announced disks source target spare) := by
  induction disks generalizing source target spare with
  | zero => exact fun before _ _ h => absurd h (by simp [announced])
  | succ disks ih =>
    have hparts := (ih source spare target).append (ih spare target source)
    intro before call after h hlarge
    rw [announced] at h
    cases before with
    | nil =>
      obtain ⟨rfl, rfl⟩ := List.cons.inj h
      obtain ⟨smaller, rfl⟩ := Nat.exists_eq_add_of_le' (Nat.le_of_lt_succ hlarge)
      exact ⟨⟨smaller + 1, ⟨source, spare⟩⟩, _, rfl, rfl, rfl⟩
    | cons first before =>
      obtain ⟨rfl, hrest⟩ := List.cons.inj h
      exact hparts before call after hrest hlarge

/-! ### The notices of a puzzle -/

theorem run_movesNoting_keeping {puzzle : Puzzle} (bound : puzzle.disks ≤ maxCollectedDisks)
    (kept : List Notice) :
    (movesNoting (keeping .trace) puzzle).run kept = (.ok puzzle.steps.toArray,
      kept ++ Notice.solving puzzle :: puzzle.announced.map Lift.notice) := by
  rw [movesNoting_of_le _ bound, StateT.run_bind, run_forM_keeping_trace, moves_eq_ok bound]
  rfl

theorem run_movesNoting_keeping_of_lt {puzzle : Puzzle} (excess : maxCollectedDisks < puzzle.disks)
    (kept : List Notice) :
    (movesNoting (keeping .trace) puzzle).run kept =
      (.error (.tooManyDisks puzzle.disks maxCollectedDisks), kept) := by
  rw [movesNoting, collectNoting_of_lt _ excess]
  rfl

/-- An observer is told of a puzzle that is read, and of nothing if there is a fault. -/
theorem run_parseNoting_keeping (text : String) (kept : List Notice) :
    (Puzzle.parseNoting (keeping .trace) text).run kept =
      (Puzzle.parse text, kept ++ match Puzzle.parse text with
        | .ok puzzle => [.parsed puzzle]
        | .error _ => []) := by
  rw [Puzzle.parseNoting_eq]
  rcases Puzzle.parse text with error | puzzle
  · exact Prod.ext rfl (List.append_nil kept).symm
  · rfl

/-- **The notices mirror the moves.** An observer of every detail that follows how the moves of at
most 20 disks are listed is told first that the puzzle is solved, and then of `2 ^ n - 1` transfers.
What a notice tells it carries by name: the puzzle with its number of moves, or how many disks are
moved from which peg to which. Replaying the listed moves on the tower tells which disk each of them
lifts. The transfers with the same number of disks, as their values tell it, are announced with the
moves that lift this disk, in the same order and between the same pegs, and there are twice as many
for each smaller disk. A transfer of more than one disk is followed by that of the disks above the
largest one, from the same peg. Of more disks the observer is told nothing. Reading a puzzle from a
text tells of the puzzle if there is one, and of nothing else. -/
theorem notices_mirror_moves :
    (∀ puzzle : Puzzle, puzzle.disks ≤ 20 → puzzle.pegs.Distinct →
      ∃ listed lifted calls told,
        moves puzzle = .ok listed ∧
        (Towers.single puzzle.disks.toNat puzzle.pegs.source).lifts? listed.toList = some lifted ∧
        lifted.map Lift.move = listed.toList ∧
        (∀ kept, (movesNoting (keeping .trace) puzzle).run kept = (.ok listed, kept ++ told)) ∧
        told = Notice.solving puzzle :: calls.map Lift.notice ∧
        told.map (fun notice => (notice.level, notice.message)) =
          (.debug, "Solving puzzle") ::
            List.replicate (2 ^ puzzle.disks.toNat - 1) (.trace, "transfer") ∧
        told.map Notice.fields =
          [("disks", toString puzzle.disks.toNat), ("source", puzzle.pegs.source.text),
            ("destination", puzzle.pegs.destination.text),
            ("auxiliary", puzzle.pegs.auxiliary.text),
            ("moves", toString puzzle.moveCount.toNat)] ::
          calls.map (fun call => [("disks", toString call.disk), ("from", call.move.source.text),
            ("to", call.move.target.text)]) ∧
        told.filterMap Notice.lift? = calls ∧
        (∀ disk, 1 ≤ disk → disk ≤ puzzle.disks.toNat →
          calls.filter (·.disk = disk) = lifted.filter (·.disk = disk) ∧
          (calls.filter (·.disk = disk)).length = 2 ^ (puzzle.disks.toNat - disk)) ∧
        Followed calls) ∧
    (∀ puzzle : Puzzle, 20 < puzzle.disks → ∀ kept,
      (movesNoting (keeping .trace) puzzle).run kept =
        (.error (.tooManyDisks puzzle.disks 20), kept)) ∧
    ∀ text kept, ∃ told,
      (Puzzle.parseNoting (keeping .trace) text).run kept = (Puzzle.parse text, kept ++ told) ∧
      (∀ puzzle, Puzzle.parse text = .ok puzzle →
        told = [.parsed puzzle] ∧
        told.map (fun notice => (notice.level, notice.message, notice.fields)) =
          [(.debug, "Parsed puzzle",
            [("disks", toString puzzle.disks.toNat), ("source", puzzle.pegs.source.text),
              ("destination", puzzle.pegs.destination.text),
              ("auxiliary", puzzle.pegs.auxiliary.text)])]) ∧
      ∀ error, Puzzle.parse text = .error error → told = [] := by
  refine ⟨fun puzzle bound hdistinct => ?_, fun puzzle => run_movesNoting_keeping_of_lt,
    fun text kept => ⟨_, run_parseNoting_keeping text kept, fun puzzle hparse => ?_,
      fun error hparse => by rw [hparse]⟩⟩
  · obtain ⟨hsd, hsa, hda⟩ := hdistinct
    refine ⟨puzzle.steps.toArray, lifts puzzle.disks.toNat puzzle.pegs.source
      puzzle.pegs.destination puzzle.pegs.auxiliary, puzzle.announced, _, moves_eq_ok bound,
      Towers.lifts?_steps_single _ hsd hsa hda, map_move_lifts _ _ _ _,
      run_movesNoting_keeping bound, rfl, ?_, ?_, filterMap_lift?_solving _ _,
      fun disk one_le le => ?_, followed_announced _ _ _ _⟩
    · have htransfer : puzzle.announced.map ((fun notice => (notice.level, notice.message)) ∘
          Lift.notice) = List.replicate (2 ^ puzzle.disks.toNat - 1) (.trace, "transfer") := by
        refine List.eq_replicate_iff.mpr ⟨?_, fun entry hentry => ?_⟩
        · rw [List.length_map]
          exact length_announced _ _ _ _
        · obtain ⟨call, -, rfl⟩ := List.mem_map.mp hentry
          rfl
      rw [List.map_cons, List.map_map, htransfer]
      rfl
    · rw [List.map_cons, List.map_map]
      rfl
    · have hlevel := filter_announced disk puzzle.disks.toNat puzzle.pegs.source
        puzzle.pegs.destination puzzle.pegs.auxiliary
      refine ⟨hlevel, ?_⟩
      rw [Puzzle.announced, hlevel, length_filter_lifts one_le le]
  · rw [hparse]
    exact ⟨rfl, rfl⟩

/-- With two disks the transfer of both is announced before the transfers of the smaller one, which
is lifted before and after the larger one. A text with two labels the same tells of no puzzle. -/
theorem notices_mirror_moves_two :
    (∃ listed lifted calls,
      moves ⟨2, .standard⟩ = .ok listed ∧
      (Towers.single 2 Pegs.standard.source).lifts? listed.toList = some lifted ∧
      (movesNoting (keeping .trace) ⟨2, .standard⟩).run [] = (.ok listed,
        [.solving ⟨2, .standard⟩,
          .transfer 2 Pegs.standard.source Pegs.standard.destination,
          .transfer 1 Pegs.standard.source Pegs.standard.auxiliary,
          .transfer 1 Pegs.standard.auxiliary Pegs.standard.destination]) ∧
      (movesNoting (keeping .trace) ⟨2, .standard⟩).run [] =
        (.ok listed, .solving ⟨2, .standard⟩ :: calls.map Lift.notice) ∧
      ((movesNoting (keeping .trace) ⟨2, .standard⟩).run []).2.map Notice.fields =
        [[("disks", "2"), ("source", "A"), ("destination", "C"), ("auxiliary", "B"),
            ("moves", "3")],
          [("disks", "2"), ("from", "A"), ("to", "C")],
          [("disks", "1"), ("from", "A"), ("to", "B")],
          [("disks", "1"), ("from", "B"), ("to", "C")]] ∧
      ((movesNoting (keeping .trace) ⟨2, .standard⟩).run []).2.filterMap Notice.lift? = calls ∧
      calls.filter (·.disk = 1) = lifted.filter (·.disk = 1) ∧
      (calls.filter (·.disk = 1)).length = 2 ∧ Followed calls) ∧
    (movesNoting (keeping .trace) ⟨21, .standard⟩).run [] = (.error (.tooManyDisks 21 20), []) ∧
    ((Puzzle.parseNoting (keeping .trace) "2 X Z Y").run []).2.map
        (fun notice => (notice.level, notice.message, notice.fields)) =
      [(.debug, "Parsed puzzle", [("disks", "2"), ("source", "X"), ("destination", "Z"),
        ("auxiliary", "Y")])] ∧
    ((Puzzle.parseNoting (keeping .trace) "2 X Z X").run []).2 = [] := by
  obtain ⟨hsolved, hexcess, hparsed⟩ := notices_mirror_moves
  refine ⟨?_, hexcess ⟨21, .standard⟩ (by decide) [], ?_, ?_⟩
  · obtain ⟨listed, lifted, calls, told, hmoves, hlifted, -, hrun, htold, -, -, hread, hlevels,
      hfollowed⟩ := hsolved ⟨2, .standard⟩ (by decide) (by decide)
    obtain ⟨hlevel, hlength⟩ := hlevels 1 (by decide) (by decide)
    have hempty : (movesNoting (keeping .trace) ⟨2, .standard⟩).run [] = (.ok listed, told) :=
      hrun []
    refine ⟨listed, lifted, calls, hmoves, hlifted, ?_, by rw [hempty, htold], ?_, ?_, hlevel,
      hlength, hfollowed⟩
    · cases hmoves
      rfl
    · decide +kernel
    · rw [hempty, hread]
  · obtain ⟨told, hrun, hone, -⟩ := hparsed "2 X Z Y" []
    have hpuzzle : Puzzle.parse "2 X Z Y" =
        .ok ⟨2, ⟨'X', by decide⟩, ⟨'Z', by decide⟩, ⟨'Y', by decide⟩⟩ := by
      decide +kernel
    rw [hrun, List.nil_append]
    exact (hone _ hpuzzle).2
  · obtain ⟨told, hrun, -, hnone⟩ := hparsed "2 X Z X" []
    have hfault : Puzzle.parse "2 X Z X" = .error (.peg (.duplicate ⟨'X', by decide⟩)) := by
      decide +kernel
    rw [hrun, hnone _ hfault]
    rfl

end TowerOfHanoi
