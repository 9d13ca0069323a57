import TowerOfHanoi.Proofs.Log.Reader

/-!
# Where the moves stand in a log

Every move is written with four characters, and what stands in front of it depends on its number
alone. So it is known from the number of a move at which character of a log it begins, and the log
of other moves has the same layout, as long as it has as many of them: the same lines with the same
numbers, and the same characters but for the first and the last one of each move, which name its
pegs.

## Main definitions

* `MoveLog.margin`, `MoveLog.movePlace`: what stands in front of a move, and where the move begins.
* `MoveLog.IsPegPlace`: the places where pegs are named.
* `MoveLog.AgreeOffPegs`: texts that differ at such places at most, from some place of a log on.
* `MoveLog.Alike`: logs that have the same layout.

## Main results

* `MoveLog.take_drop_page`: a move stands at its place.
* `MoveLog.alike_page`: other moves in the place of the moves leave the layout as it is.
-/

namespace TowerOfHanoi.MoveLog

/-! ### Places -/

/-- What stands in front of the move with the given number. -/
def margin (number : Nat) : String :=
  if number % 8 = 0 then "\n" ++ label number ++ ": " else " "

/-- How many characters stand in front of the move with the given number in all. -/
def movePlace : Nat → Nat
  | 0 => (margin 0).length
  | number + 1 => movePlace number + 4 + (margin (number + 1)).length

/-- A place where a peg is named: the first and the last character of a move. -/
def IsPegPlace (place : Nat) : Prop :=
  ∃ number, place = movePlace number ∨ place = movePlace number + 3

theorem record_eq (number : Nat) (move : Move) : record number move = margin number ++ move.text :=
  rfl

theorem length_text (move : Move) : move.text.length = 4 := by
  rw [← String.length_toList, toList_text]
  rfl

/-- The records of the moves before a move and what stands in front of it end at its place. -/
theorem length_records (moves : List Move) :
    (records 0 moves).length + (margin moves.length).length = movePlace moves.length := by
  induction moves using List.reverseRecOn with
  | nil => exact Nat.zero_add _
  | append_singleton moves move ih =>
    rw [records_concat, record_eq, String.length_append, String.length_append, length_text,
      List.length_append, List.length_singleton, movePlace, ← ih]
    omega

/-- A move stands at its place. -/
theorem take_drop_page (before : List Move) (move : Move) (rest : List Move) :
    ((page (before ++ move :: rest)).toList.drop (movePlace before.length)).take 4 =
      move.text.toList := by
  have hplace : ((records 0 before).toList ++ (margin before.length).toList).length =
      movePlace before.length := by
    rw [List.length_append, String.length_toList, String.length_toList, length_records]
  have hlength : move.text.toList.length = 4 := length_text move
  rw [page_eq_records, records_append, Nat.zero_add, records, record_eq]
  simp only [String.toList_append, List.append_assoc]
  rw [← List.append_assoc, List.drop_left' hplace, List.take_left' hlength]

/-! ### Texts that differ where pegs are named -/

/-- Two texts of the same length, both from some place of a log on, differ at most where pegs are
named. -/
structure AgreeOffPegs (start : Nat) (text other : List Char) : Prop where
  length_eq : other.length = text.length
  getElem?_eq : ∀ place, ¬ IsPegPlace (start + place) → other[place]? = text[place]?

theorem agreeOffPegs_refl (start : Nat) (text : List Char) : AgreeOffPegs start text text where
  length_eq := rfl
  getElem?_eq _ _ := rfl

theorem AgreeOffPegs.append {start : Nat} {front front' back back' : List Char}
    (hfront : AgreeOffPegs start front front')
    (hback : AgreeOffPegs (start + front.length) back back') :
    AgreeOffPegs start (front ++ back) (front' ++ back') where
  length_eq := by rw [List.length_append, List.length_append, hfront.length_eq, hback.length_eq]
  getElem?_eq place hplace := by
    rw [List.getElem?_append, List.getElem?_append, hfront.length_eq]
    split
    · exact hfront.getElem?_eq place hplace
    · exact hback.getElem?_eq _ (by rwa [Nat.add_assoc, Nat.add_sub_of_le (by omega)])

/-- Two moves at one place differ where they name their pegs. -/
theorem agreeOffPegs_text (number : Nat) (move other : Move) :
    AgreeOffPegs (movePlace number) move.text.toList other.text.toList where
  length_eq := (length_text other).trans (length_text move).symm
  getElem?_eq place hplace := by
    rw [toList_text, toList_text]
    match place with
    | 0 => exact absurd ⟨number, .inl rfl⟩ hplace
    | 1 => rfl
    | 2 => rfl
    | 3 => exact absurd ⟨number, .inr rfl⟩ hplace
    | _ + 4 => rfl

/-- Other moves in the place of the moves change the records where pegs are named. -/
theorem agreeOffPegs_records (change : Move → Move) (moves : List Move) :
    AgreeOffPegs 0 (records 0 moves).toList (records 0 (moves.map change)).toList := by
  induction moves using List.reverseRecOn with
  | nil => exact agreeOffPegs_refl 0 _
  | append_singleton moves move ih =>
    have hplace := length_records moves
    rw [List.map_append, List.map_singleton, records_concat, records_concat, List.length_map,
      record_eq, record_eq]
    simp only [String.toList_append]
    -- What stands in front of the last move is the same, and the move begins at its place.
    refine ih.append ((agreeOffPegs_refl _ _).append ?_)
    rw [String.length_toList, String.length_toList, Nat.zero_add, hplace]
    exact agreeOffPegs_text _ move (change move)

/-! ### Logs with the same layout -/

/-- Two logs have the same layout. -/
structure Alike (log other : String) : Prop where
  /-- They have the same number of lines. -/
  length_splitOn_eq : (other.toList.splitOn '\n').length = (log.toList.splitOn '\n').length
  /-- The lines can be read, and have the same numbers. -/
  numbers_eq : ∃ numbers, (readPage log).map (List.map Prod.fst) = some numbers ∧
    (readPage other).map (List.map Prod.fst) = some numbers
  /-- They have the same number of characters. -/
  length_eq : other.length = log.length
  /-- They differ at most where pegs are named. -/
  isPegPlace_of_ne : ∀ place, other.toList[place]? ≠ log.toList[place]? → IsPegPlace place

section Change

variable (change : Move → Move) (moves : List Move)

theorem lineCount_map : lineCount (moves.map change) = lineCount moves := by
  rw [lineCount, lineCount, List.length_map]

/-- The lines keep their numbers, and have other moves. -/
theorem numberedLines_map :
    numberedLines (moves.map change) =
      (numberedLines moves).map (Prod.map id (List.map change)) := by
  simp [numberedLines, lineCount_map, lineMoves, List.map_drop, List.map_take]

theorem length_splitOn_page :
    ((page moves).toList.splitOn '\n').length = if moves = [] then 1 else lineCount moves + 2 := by
  by_cases hne : moves = []
  · rw [if_pos hne, hne]
    rfl
  · simp [if_neg hne, splitOn_page hne, lines]

/-- A move that is in the place of another stands where the other stood. -/
theorem take_drop_page_map (before : List Move) (move : Move) (rest : List Move) :
    ((page ((before ++ move :: rest).map change)).toList.drop (movePlace before.length)).take 4 =
      (change move).text.toList := by
  have hplace := take_drop_page (before.map change) (change move) (rest.map change)
  rwa [List.length_map, ← List.map_cons, ← List.map_append] at hplace

/-- **Other moves in the place of the moves leave the layout of a log as it is.** -/
theorem alike_page : Alike (page moves) (page (moves.map change)) := by
  have hagree : AgreeOffPegs 0 (page moves).toList (page (moves.map change)).toList := by
    rw [page_eq_records, page_eq_records, String.toList_append, String.toList_append]
    simp only [List.map_eq_nil_iff]
    exact (agreeOffPegs_records change moves).append (agreeOffPegs_refl _ _)
  refine ⟨?_, ⟨(numberedLines moves).map Prod.fst, ?_, ?_⟩, hagree.length_eq, fun place hne => ?_⟩
  · simp only [length_splitOn_page, List.map_eq_nil_iff, lineCount_map]
  · rw [readPage_page, Option.map_some]
  · rw [readPage_page, Option.map_some, numberedLines_map, List.map_map]
    rfl
  · by_contra hplace
    exact hne (hagree.getElem?_eq place (by rwa [Nat.zero_add]))

end Change

end TowerOfHanoi.MoveLog
