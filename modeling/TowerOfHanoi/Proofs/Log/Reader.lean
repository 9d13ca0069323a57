import TowerOfHanoi.Proofs.Log.Session

/-!
# Reading a log back

A log is read by its punctuation: newlines around its lines, a colon and a space behind the number
of a line, spaces between moves, and an arrow within a move. A label may be any of these characters
but the newline and the space. This does no harm: a number holds neither colon nor label, so the
first colon with a space behind it is the one that ends the number, and a move is read by its length
and not by looking for its arrow. So every log is read back as the moves that it was written for,
and two logs with the same text are logs of the same moves.

## Main definitions

* `MoveLog.readMove`, `MoveLog.readNumber`, `MoveLog.readLine`, `MoveLog.readPage`: reading a log,
  from its moves up.
* `MoveLog.numberedLines`: the lines of a log as numbers and moves.
* `Printer.Logs`: the text that the printing of moves leaves on a device.

## Main results

* `MoveLog.readMove_text`, `MoveLog.readNumber_label`, `MoveLog.readLine_line`: reading undoes
  writing, from the moves up.
* `MoveLog.readPage_page`: a page is read back as its lines.
* `log_reads_back`: what a printer has written is read back, and no other moves have the same log.
-/

namespace TowerOfHanoi

namespace MoveLog

/-! ### Reading -/

/-- Reads a move: a label, an arrow and a label. -/
def readMove : List Char → Option Move
  | [source, '-', '>', target] => do
    let source ← (Peg.ofChar source).toOption
    let target ← (Peg.ofChar target).toOption
    return ⟨source, target⟩
  | _ => none

/-- Reads a number in decimal, with any spaces in front of it. -/
def readNumber (chars : List Char) : Option Nat :=
  let digits := chars.dropWhile (· = ' ')
  if digits.isEmpty || digits.any (!·.isDigit) then none else some (Nat.ofDigitChars 10 digits 0)

/-- Cuts a line at its first colon with a space behind it. -/
def cutLine : List Char → Option (List Char × List Char)
  | [] => none
  | c :: cs =>
    match c, cs with
    | ':', ' ' :: rest => some ([], rest)
    | c, cs => (cutLine cs).map fun parts => (c :: parts.1, parts.2)

/-- Reads a line: the number of its first move, and its moves. -/
def readLine (line : List Char) : Option (Nat × List Move) := do
  let (label, moves) ← cutLine line
  let number ← readNumber label
  let moves ← (moves.splitOn ' ').mapM readMove
  return (number, moves)

/-- Reads a log line by line, apart from lines without text. -/
def readPage (text : String) : Option (List (Nat × List Move)) :=
  ((text.toList.splitOn '\n').filter (· ≠ [])).mapM readLine

/-- The lines of a log: the number of the first move, and the moves. -/
def numberedLines (moves : List Move) : List (Nat × List Move) :=
  (List.range (lineCount moves)).map fun index => (8 * index, lineMoves moves index)

/-- The lines hold all the moves, in order. -/
theorem flatMap_numberedLines (moves : List Move) :
    (numberedLines moves).flatMap Prod.snd = moves := by
  rw [numberedLines, List.flatMap_map]
  exact flatMap_lineMoves moves

/-! ### Moves -/

theorem toList_text (move : Move) :
    move.text.toList = [move.source.label, '-', '>', move.target.label] := by
  simp [Move.text, Peg.text, Char.toString_eq_singleton]

@[simp] theorem readMove_text (move : Move) : readMove move.text.toList = some move := by
  rw [toList_text, readMove, Peg.ofChar_label, Peg.ofChar_label]
  rfl

/-- No label is a blank, so no blank is part of a move. -/
theorem not_mem_text {c : Char} (hblank : Text.isBlank c = true) (move : Move) :
    c ∉ move.text.toList := by
  have hlabel : ∀ peg : Peg, c ≠ peg.label := by
    intro peg hpeg
    have hsolid := peg.isLabel_label
    rw [← hpeg, Peg.isLabel, hblank] at hsolid
    cases hsolid
  have hdash : c ≠ '-' := by
    rintro rfl
    cases hblank
  have harrow : c ≠ '>' := by
    rintro rfl
    cases hblank
  simp only [toList_text, List.mem_cons, List.not_mem_nil, or_false, not_or]
  exact ⟨hlabel move.source, hdash, harrow, hlabel move.target⟩

/-! ### Numbers -/

theorem toList_label (number : Nat) :
    (label number).toList =
      List.replicate (5 - (toString number).length) ' ' ++ Nat.toDigits 10 number := by
  rw [label, String.toList_append, String.toList_ofList, Nat.toString_eq_repr, Nat.toList_repr]

theorem isDigit_of_mem_toDigits {number : Nat} {c : Char} (hc : c ∈ Nat.toDigits 10 number) :
    c.isDigit = true :=
  Nat.isDigit_of_mem_toDigits (by decide) (by decide) hc

@[simp] theorem readNumber_label (number : Nat) :
    readNumber (label number).toList = some number := by
  have hdigits : (label number).toList.dropWhile (· = ' ') = Nat.toDigits 10 number := by
    rw [toList_label, List.dropWhile_append_of_pos]
    · -- the first digit ends the spaces
      obtain ⟨digit, digits, hcons⟩ := List.exists_cons_of_ne_nil (Nat.toDigits_ne_nil (n := number)
        (b := 10))
      have hdigit : digit.isDigit = true := isDigit_of_mem_toDigits (hcons ▸ List.mem_cons_self)
      have hspace : digit ≠ ' ' := by
        rintro rfl
        cases hdigit
      rw [hcons, List.dropWhile_cons_of_neg (by simpa using hspace)]
    · intro c hc
      simpa using List.eq_of_mem_replicate hc
  have hfine : ((Nat.toDigits 10 number).isEmpty ||
      (Nat.toDigits 10 number).any (!·.isDigit)) = false := by
    simp only [Bool.or_eq_false_iff, List.isEmpty_eq_false_iff, List.any_eq_false,
      Bool.not_eq_true', Bool.not_eq_false]
    exact ⟨Nat.toDigits_ne_nil, fun c hc => isDigit_of_mem_toDigits hc⟩
  simp only [readNumber, hdigits, hfine, Bool.false_eq_true, if_false,
    Nat.ofDigitChars_ten_toDigits]

/-- A label holds digits and spaces only. -/
theorem not_mem_label {c : Char} (hspace : c ≠ ' ') (hdigit : c.isDigit = false) (number : Nat) :
    c ∉ (label number).toList := by
  rw [toList_label, List.mem_append, not_or]
  constructor
  · intro hc
    exact hspace (List.eq_of_mem_replicate hc)
  · intro hc
    rw [isDigit_of_mem_toDigits hc] at hdigit
    cases hdigit

/-! ### Lines -/

/-- The first colon with a space behind it is where the characters before hold no colon. -/
theorem cutLine_append {front : List Char} (hfront : ':' ∉ front) (rest : List Char) :
    cutLine (front ++ ':' :: ' ' :: rest) = some (front, rest) := by
  induction front with
  | nil => rfl
  | cons c front ih =>
    rw [List.mem_cons, not_or] at hfront
    rw [List.cons_append, cutLine]
    · rw [ih hfront.2]
      rfl
    · intro _ hc
      exact absurd hc.symm hfront.1

theorem mapM_map_eq_some {α β γ : Type} {write : α → β} {read : β → Option γ} {g : α → γ}
    {items : List α} (hread : ∀ item ∈ items, read (write item) = some (g item)) :
    (items.map write).mapM read = some (items.map g) := by
  induction items with
  | nil => rfl
  | cons item rest ih =>
    rw [List.forall_mem_cons] at hread
    rw [List.map_cons, List.mapM_cons, hread.1, ih hread.2]
    rfl

theorem not_mem_intercalate {α : Type} {x : α} {separator : List α} {pieces : List (List α)}
    (hseparator : x ∉ separator) (hpieces : ∀ piece ∈ pieces, x ∉ piece) :
    x ∉ separator.intercalate pieces := by
  induction pieces with
  | nil => simp
  | cons piece rest ih =>
    rw [List.forall_mem_cons] at hpieces
    cases rest with
    | nil => simpa using hpieces.1
    | cons next rest =>
      rw [List.intercalate_cons_cons]
      simp only [List.mem_append, not_or]
      exact ⟨⟨hpieces.1, hseparator⟩, ih hpieces.2⟩

section Lines

variable (moves : List Move) (index : Nat)

theorem toList_line :
    (line moves index).toList = (label (8 * index)).toList ++ ':' :: ' ' ::
      [' '].intercalate ((lineMoves moves index).map fun move => move.text.toList) := by
  simp [line, Function.comp_def]

theorem readLine_line {moves : List Move} {index : Nat} (hne : lineMoves moves index ≠ []) :
    readLine (line moves index).toList = some (8 * index, lineMoves moves index) := by
  have hmoves : ([' '].intercalate ((lineMoves moves index).map fun move =>
      move.text.toList)).splitOn ' ' =
        (lineMoves moves index).map fun move => move.text.toList := by
    refine List.splitOn_intercalate ' ' ?_ (by simpa using hne)
    simp only [List.mem_map, forall_exists_index, and_imp]
    rintro _ move - rfl
    exact not_mem_text rfl move
  have hread : ((lineMoves moves index).map fun move => move.text.toList).mapM readMove =
      some (lineMoves moves index) := by
    have hmoves := mapM_map_eq_some (g := id) fun move (_ : move ∈ lineMoves moves index) =>
      readMove_text move
    rwa [List.map_id] at hmoves
  rw [readLine, toList_line, cutLine_append (not_mem_label (by decide) (by decide) _)]
  simp only [Option.bind_eq_bind, Option.bind_some, readNumber_label, hmoves, hread]
  rfl

/-- A line is not broken, and it is not empty. -/
theorem newline_not_mem_line : '\n' ∉ (line moves index).toList := by
  rw [toList_line]
  simp only [List.mem_append, List.mem_cons, not_or]
  refine ⟨not_mem_label (by decide) (by decide) _, by decide, by decide, ?_⟩
  refine not_mem_intercalate (by decide) ?_
  simp only [List.mem_map, forall_exists_index, and_imp]
  rintro _ move - rfl
  exact not_mem_text rfl move

theorem toList_line_ne_nil : (line moves index).toList ≠ [] := by
  rw [toList_line]
  simp

end Lines

/-! ### Pages -/

/-- A page is its lines and an empty one on either side, with newlines between. -/
theorem page_eq_intercalate {moves : List Move} (hne : moves ≠ []) :
    page moves = "\n".intercalate ("" :: (lines moves ++ [""])) := by
  rw [page, if_neg hne, String.intercalate_cons_of_ne_nil (by simp),
    String.intercalate_append_of_ne_nil (lines_ne_nil hne) (by simp)]
  simp [String.append_assoc]

theorem splitOn_page {moves : List Move} (hne : moves ≠ []) :
    (page moves).toList.splitOn '\n' = [] :: ((lines moves).map String.toList ++ [[]]) := by
  have hsplit : ("" :: (lines moves ++ [""])).map String.toList =
      [] :: ((lines moves).map String.toList ++ [[]]) := by
    rw [List.map_cons, List.map_append]
    rfl
  rw [page_eq_intercalate hne, String.toList_intercalate, hsplit]
  refine List.splitOn_intercalate '\n' ?_ (List.cons_ne_nil _ _)
  simp only [List.mem_cons, List.mem_append, List.not_mem_nil, or_false, lines, List.mem_map]
  rintro _ (rfl | ⟨_, ⟨index, -, rfl⟩, rfl⟩ | rfl)
  · exact List.not_mem_nil
  · exact newline_not_mem_line moves index
  · exact List.not_mem_nil

/-- A page is read back as its lines. -/
theorem readPage_page (moves : List Move) : readPage (page moves) = some (numberedLines moves) := by
  by_cases hne : moves = []
  · rw [hne]
    rfl
  · have hkeep : ((lines moves).map String.toList).filter (· ≠ []) =
        (lines moves).map String.toList := by
      refine List.filter_eq_self.mpr ?_
      simp only [lines, List.mem_map, forall_exists_index, and_imp]
      rintro _ _ index - rfl rfl
      exact decide_eq_true (toList_line_ne_nil moves index)
    have hlines : ((page moves).toList.splitOn '\n').filter (· ≠ []) =
        (List.range (lineCount moves)).map fun index => (line moves index).toList := by
      rw [splitOn_page hne, List.filter_cons_of_neg (by simp), List.filter_append, hkeep,
        List.filter_cons_of_neg (by simp), List.filter_nil, List.append_nil, lines, List.map_map]
      rfl
    rw [readPage, hlines, numberedLines]
    refine mapM_map_eq_some fun index hindex => readLine_line ?_
    rw [List.mem_range] at hindex
    have hlength := length_lineMoves moves index
    unfold lineCount at hindex
    exact List.ne_nil_of_length_pos (by omega)

end MoveLog

/-! ### Logs on devices -/

theorem bytesOfText_injective : Function.Injective bytesOfText := by
  intro first second h
  have hbytes : first.toByteArray.data = second.toByteArray.data := Array.toList_inj.mp h
  exact String.toByteArray_inj.mp (ByteArray.ext hbytes)

section Logs

open Archive (written)

variable {δ : Type} [Archive δ]

/-- A text is what printing the moves one by one with a new printer, and ending the log, leaves on
a device. -/
def Printer.Logs (device : δ) (moves : List Move) (text : String) : Prop :=
  ∃ printer after,
    Printer.session (moves.map .print) ⟨device, 0⟩ = (moves.map fun _ => .ok (), printer) ∧
    printer.finish = (.ok (), after) ∧ written after = written device ++ bytesOfText text

/-- Printing moves on a device that never fails leaves their page there and no other text. -/
theorem Printer.logs_iff {device : δ} (hdevice : Device.NeverFails device) {moves : List Move}
    (hroom : moves.length < 2 ^ 64) {text : String} :
    Printer.Logs device moves text ↔ text = MoveLog.page moves := by
  have hreceived : Printer.received (moves.map .print) = moves := by
    rw [Printer.received, List.flatMap_map]
    exact List.flatMap_singleton' moves
  have haccepted : ∀ call ∈ moves.map Printer.Call.print, call.Accepted := by
    simp only [List.mem_map, forall_exists_index, and_imp]
    rintro _ move - rfl
    trivial
  obtain ⟨printer, hsession, hwrote⟩ := (Printer.wrote_nil hdevice).session haccepted
    (by rwa [hreceived])
  obtain ⟨after, hfinish, hwritten⟩ := hwrote.finish
  rw [List.nil_append, hreceived] at hwritten
  rw [List.map_map] at hsession
  constructor
  · rintro ⟨_, _, hother, hended, htext⟩
    cases hsession.symm.trans hother
    cases hfinish.symm.trans hended
    exact bytesOfText_injective (List.append_cancel_left (htext.symm.trans hwritten))
  · rintro rfl
    exact ⟨printer, after, hsession, hfinish, hwritten⟩

end Logs

/-- **A log is read back.** Printing fewer than 2^64 moves on a device that never fails leaves
exactly one text there, whatever characters the labels are. Reading it gives the lines of the log,
each with the number of its first move, and together they hold the moves in order. No other moves,
printed on any such device, leave the same text. -/
theorem log_reads_back {δ : Type} [Archive δ] {device : δ} (hdevice : Device.NeverFails device)
    (moves : List Move) (hroom : moves.length < 2 ^ 64) :
    ∃ text, (∀ other, Printer.Logs device moves other ↔ other = text) ∧
      MoveLog.readPage text = some (MoveLog.numberedLines moves) ∧
      (MoveLog.numberedLines moves).flatMap Prod.snd = moves ∧
      ∀ {ε : Type} [Archive ε] {another : ε}, Device.NeverFails another → ∀ others : List Move,
        others.length < 2 ^ 64 → Printer.Logs another others text → others = moves := by
  have hread := MoveLog.readPage_page moves
  refine ⟨MoveLog.page moves, fun other => Printer.logs_iff hdevice hroom, hread,
    MoveLog.flatMap_numberedLines moves, ?_⟩
  intro ε _ another hanother others hothers hlogs
  rw [(Printer.logs_iff hanother hothers).mp hlogs, MoveLog.readPage_page, Option.some.injEq]
    at hread
  rw [← MoveLog.flatMap_numberedLines others, hread, MoveLog.flatMap_numberedLines]

/-- Labels may be the punctuation of the log, and a disk may be put back where it was. -/
theorem log_reads_back_punctuation :
    Printer.Logs ({ chunk := some 1 } : Tape)
      [⟨⟨':', by decide⟩, ⟨':', by decide⟩⟩, ⟨⟨'-', by decide⟩, ⟨'>', by decide⟩⟩,
        ⟨⟨'0', by decide⟩, ⟨':', by decide⟩⟩] "\n    0: :->: -->> 0->:\n" ∧
    MoveLog.readPage "\n    0: :->: -->> 0->:\n" =
      some [(0, [⟨⟨':', by decide⟩, ⟨':', by decide⟩⟩, ⟨⟨'-', by decide⟩, ⟨'>', by decide⟩⟩,
        ⟨⟨'0', by decide⟩, ⟨':', by decide⟩⟩])] := by
  have hdevice : Device.NeverFails ({ chunk := some 1 } : Tape) :=
    Tape.Unlimited.neverFails ⟨rfl, by decide, rfl⟩
  have hlogs : Printer.Logs ({ chunk := some 1 } : Tape)
      [⟨⟨':', by decide⟩, ⟨':', by decide⟩⟩, ⟨⟨'-', by decide⟩, ⟨'>', by decide⟩⟩,
        ⟨⟨'0', by decide⟩, ⟨':', by decide⟩⟩] "\n    0: :->: -->> 0->:\n" :=
    (Printer.logs_iff hdevice (by decide)).mpr (by decide +kernel)
  obtain ⟨text, hunique, hread, -⟩ := log_reads_back hdevice
    [⟨⟨':', by decide⟩, ⟨':', by decide⟩⟩, ⟨⟨'-', by decide⟩, ⟨'>', by decide⟩⟩,
      ⟨⟨'0', by decide⟩, ⟨':', by decide⟩⟩] (by decide)
  rw [(hunique _).mp hlogs]
  exact ⟨(hunique text).mpr rfl, hread⟩

end TowerOfHanoi
