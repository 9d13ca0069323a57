import Mathlib.Data.List.Induction
import TowerOfHanoi.MoveLog

/-!
# The log as a page of lines

The log is written move by move, and what stands in front of a move is chosen by how many went
before it. This file describes the finished log from outside, as a page: the moves are cut into
lines of eight, each line is a label, a colon and its moves, and the page is the lines with
newlines between and around them. The two descriptions agree for every list of moves. The proof
adds one move at the end: it either opens a line of its own or goes to the end of the last one.

## Main definitions

* `MoveLog.record`, `MoveLog.records`: the text of a move with its number, and of a list of moves.
* `MoveLog.lineMoves`, `MoveLog.line`, `MoveLog.page`: the log line by line.

## Main results

* `MoveLog.join_entry`: the texts written for a move make up its record.
* `MoveLog.page_eq_records`: the page is the records, ended by a newline unless there are none.
* `MoveLog.flatMap_lineMoves`, `MoveLog.length_lineMoves`: what the lines hold.
-/

namespace TowerOfHanoi.MoveLog

/-! ### Record by record -/

/-- A number in decimal, with spaces in front of it up to five characters in all. -/
def label (number : Nat) : String :=
  String.ofList (List.replicate (5 - (toString number).length) ' ') ++ toString number

/-- The text of the move with the given number: it opens a line if its number is a multiple of
eight, and follows a space otherwise. -/
def record (number : Nat) (move : Move) : String :=
  (if number % 8 = 0 then "\n" ++ label number ++ ": " else " ") ++ move.text

/-- The text of the moves whose numbers start at the given one. -/
def records : Nat → List Move → String
  | _, [] => ""
  | number, move :: rest => record number move ++ records (number + 1) rest

/-- A label is as wide as its number, and at least five characters. -/
theorem length_label (number : Nat) : (label number).length = max 5 (toString number).length := by
  rw [label, String.length_append, String.length_ofList, List.length_replicate]
  omega

example : label 8 = "    8" ∧ label 100000 = "100000" := by decide +kernel

/-- The spaces in front of a number are written one by one. -/
theorem join_replicate_space (count : Nat) :
    String.join (List.replicate count " ") = String.ofList (List.replicate count ' ') := by
  induction count with
  | zero => rfl
  | succ count ih =>
    rw [List.replicate_succ, List.replicate_succ, String.join_cons, ih, String.ofList_cons]
    rfl

theorem join_opening (count : UInt64) :
    String.join (opening count) =
      if count.toNat % 8 = 0 then "\n" ++ label count.toNat ++ ": " else " " := by
  have hmod : count % movesPerLine = 0 ↔ count.toNat % 8 = 0 := by
    rw [← UInt64.toNat_inj, UInt64.toNat_mod]
    rfl
  simp only [opening, hmod]
  split
  · rw [List.cons_append, String.join_cons, String.join_append, join_replicate_space,
      String.join_cons, String.join_cons, String.join_nil, String.append_empty, label, indexWidth]
    simp only [String.append_assoc]
  · rw [String.join_cons, String.join_nil, String.append_empty]

/-- The texts that are written for a move make up its record. -/
theorem join_entry (count : UInt64) (move : Move) :
    String.join (entry count move) = record count.toNat move := by
  simp only [entry, String.join_append, join_opening, String.join_cons, String.join_nil,
    String.append_empty, record, Move.text, String.append_assoc]

theorem records_append (number : Nat) (first second : List Move) :
    records number (first ++ second) =
      records number first ++ records (number + first.length) second := by
  induction first generalizing number with
  | nil => exact String.empty_append.symm
  | cons move rest ih =>
    rw [List.cons_append, records, records, ih, String.append_assoc, List.length_cons,
      Nat.add_right_comm, Nat.add_assoc]

theorem records_concat (moves : List Move) (move : Move) :
    records 0 (moves ++ [move]) = records 0 moves ++ record moves.length move := by
  rw [records_append, Nat.zero_add, records, records, String.append_empty]

/-! ### Line by line -/

/-- The moves on a line: eight of them, or those that are left. -/
def lineMoves (moves : List Move) (index : Nat) : List Move :=
  (moves.drop (8 * index)).take 8

/-- How many lines the moves fill. -/
def lineCount (moves : List Move) : Nat :=
  (moves.length + 7) / 8

/-- A line: the number of its first move, a colon, and its moves with spaces between them. -/
def line (moves : List Move) (index : Nat) : String :=
  label (8 * index) ++ ": " ++ " ".intercalate ((lineMoves moves index).map Move.text)

/-- All the lines, in order. -/
def lines (moves : List Move) : List String :=
  (List.range (lineCount moves)).map (line moves)

/-- The page: nothing without moves, and otherwise the lines with a newline between any two of
them, one in front and one behind. -/
def page (moves : List Move) : String :=
  if moves = [] then "" else "\n" ++ "\n".intercalate (lines moves) ++ "\n"

section Lines

variable (moves : List Move)

theorem length_lineMoves (index : Nat) :
    (lineMoves moves index).length = min 8 (moves.length - 8 * index) := by
  rw [lineMoves, List.length_take, List.length_drop]

/-- Every line but the last is full. -/
theorem length_lineMoves_of_lt {index : Nat} (hindex : index + 1 < lineCount moves) :
    (lineMoves moves index).length = 8 := by
  rw [length_lineMoves]
  unfold lineCount at hindex
  omega

/-- The last line is not empty. -/
theorem length_lineMoves_of_eq {index : Nat} (hindex : index + 1 = lineCount moves) :
    1 ≤ (lineMoves moves index).length ∧ (lineMoves moves index).length ≤ 8 := by
  rw [length_lineMoves]
  unfold lineCount at hindex
  omega

theorem flatMap_lineMoves_range (count : Nat) :
    (List.range count).flatMap (lineMoves moves) = moves.take (8 * count) := by
  induction count with
  | zero => rfl
  | succ count ih =>
    rw [List.range_succ, List.flatMap_append, ih, List.flatMap_singleton, lineMoves,
      ← List.take_add, Nat.mul_succ]

/-- The lines hold all the moves, in order. -/
theorem flatMap_lineMoves : (List.range (lineCount moves)).flatMap (lineMoves moves) = moves := by
  rw [flatMap_lineMoves_range, List.take_of_length_le]
  unfold lineCount
  omega

end Lines

/-! ### One more move -/

section Concat

variable {moves : List Move} (move : Move)

/-- One more move changes no line that is full. -/
theorem line_concat_of_le {index : Nat} (hfull : 8 * (index + 1) ≤ moves.length) :
    line (moves ++ [move]) index = line moves index := by
  rw [line, line, lineMoves, lineMoves, List.drop_append_of_le_length (by omega),
    List.take_append_of_le_length (by rw [List.length_drop]; omega)]

/-- One more move goes to the end of a line that is begun. -/
theorem line_concat_of_lt {index : Nat} (hbegun : 8 * index < moves.length)
    (hroom : moves.length < 8 * (index + 1)) :
    line (moves ++ [move]) index = line moves index ++ " " ++ move.text := by
  have hshort : (moves.drop (8 * index)).length < 8 := by rw [List.length_drop]; omega
  have hnonempty : (moves.drop (8 * index)).map Move.text ≠ [] := by
    rw [Ne, List.map_eq_nil_iff, List.drop_eq_nil_iff]
    omega
  rw [line, line, lineMoves, lineMoves, List.drop_append_of_le_length (Nat.le_of_lt hbegun),
    List.take_of_length_le (by rw [List.length_append, List.length_singleton]; omega),
    List.take_of_length_le (Nat.le_of_lt hshort), List.map_append, List.map_singleton,
    String.intercalate_append_of_ne_nil hnonempty (List.cons_ne_nil _ _),
    String.intercalate_singleton, String.append_assoc, String.append_assoc, String.append_assoc,
    String.append_assoc, String.append_assoc]

/-- One more move opens a line when all the others are full. -/
theorem line_concat_of_eq {index : Nat} (hopen : 8 * index = moves.length) :
    line (moves ++ [move]) index = label moves.length ++ ": " ++ move.text := by
  rw [line, lineMoves, hopen, List.drop_left]
  exact congrArg _ String.intercalate_singleton

theorem lines_concat_of_mod_eq (hfull : moves.length % 8 = 0) :
    lines (moves ++ [move]) = lines moves ++ [label moves.length ++ ": " ++ move.text] := by
  have hcount : lineCount (moves ++ [move]) = lineCount moves + 1 := by
    simp only [lineCount, List.length_append, List.length_singleton]
    omega
  have hlength : 8 * lineCount moves = moves.length := by
    unfold lineCount
    omega
  rw [lines, hcount, List.range_succ, List.map_append, List.map_singleton,
    line_concat_of_eq move hlength]
  refine congrArg (· ++ _) (List.map_congr_left fun index hindex => ?_)
  rw [List.mem_range] at hindex
  exact line_concat_of_le move (by omega)

theorem lines_concat_of_mod_ne (hbegun : moves.length % 8 ≠ 0) :
    ∃ front last, lines moves = front ++ [last] ∧
      lines (moves ++ [move]) = front ++ [last ++ " " ++ move.text] := by
  -- the line that is begun is the last of both pages
  obtain ⟨index, hindex⟩ : ∃ index, lineCount moves = index + 1 :=
    Nat.exists_eq_succ_of_ne_zero (by unfold lineCount; omega)
  have hcount : lineCount (moves ++ [move]) = index + 1 := by
    rw [← hindex]
    simp only [lineCount, List.length_append, List.length_singleton]
    omega
  have hlower : 8 * index < moves.length := by unfold lineCount at hindex; omega
  have hupper : moves.length < 8 * (index + 1) := by unfold lineCount at hindex; omega
  refine ⟨(List.range index).map (line moves), line moves index, ?_, ?_⟩
  · rw [lines, hindex, List.range_succ, List.map_append, List.map_singleton]
  · rw [lines, hcount, List.range_succ, List.map_append, List.map_singleton,
      line_concat_of_lt move hlower hupper]
    refine congrArg (· ++ _) (List.map_congr_left fun earlier hearlier => ?_)
    rw [List.mem_range] at hearlier
    exact line_concat_of_le move (by omega)

end Concat

/-! ### The two descriptions agree -/

/-- Separators between texts and one more in front stand in front of every text. -/
theorem newline_intercalate {texts : List String} (hne : texts ≠ []) :
    "\n" ++ "\n".intercalate texts = String.join (texts.map ("\n" ++ ·)) := by
  induction texts with
  | nil => exact absurd rfl hne
  | cons text rest ih =>
    by_cases hrest : rest = []
    · rw [hrest, String.intercalate_singleton, List.map_singleton, String.join_cons,
        String.join_nil, String.append_empty]
    · rw [String.intercalate_cons_of_ne_nil hrest, List.map_cons, String.join_cons, ← ih hrest]
      simp only [String.append_assoc]

/-- The lines, each with a newline in front, are the records. -/
theorem join_lines (moves : List Move) :
    String.join ((lines moves).map ("\n" ++ ·)) = records 0 moves := by
  induction moves using List.reverseRecOn with
  | nil => rfl
  | append_singleton moves move ih =>
    rw [records_concat, ← ih, record]
    by_cases hmod : moves.length % 8 = 0
    · rw [if_pos hmod, lines_concat_of_mod_eq move hmod]
      simp only [List.map_append, List.map_singleton, String.join_append, String.join_cons,
        String.join_nil, String.append_empty, String.append_assoc]
    · obtain ⟨front, last, hlines, hconcat⟩ := lines_concat_of_mod_ne move hmod
      rw [if_neg hmod, hlines, hconcat]
      simp only [List.map_append, List.map_singleton, String.join_append, String.join_cons,
        String.join_nil, String.append_empty, String.append_assoc]

theorem lines_ne_nil {moves : List Move} (hne : moves ≠ []) : lines moves ≠ [] := by
  have hlength := List.length_pos_iff.mpr hne
  rw [lines, Ne, List.map_eq_nil_iff, List.range_eq_nil]
  unfold lineCount
  omega

/-- The page is what the records make, with a newline behind the last of them. -/
theorem page_eq_records (moves : List Move) :
    page moves = records 0 moves ++ if moves = [] then "" else "\n" := by
  by_cases hne : moves = []
  · rw [hne]
    rfl
  · rw [page, if_neg hne, if_neg hne, newline_intercalate (lines_ne_nil hne), join_lines]

end TowerOfHanoi.MoveLog
