import TowerOfHanoi.CommandLine.Run
import TowerOfHanoi.Proofs.Input.Reading
import TowerOfHanoi.Proofs.Json.RoundTrip
import TowerOfHanoi.Proofs.Streaming

/-!
# Labels that can be told apart

There are many ways to three pegs: from characters, from words, from a text or a reader, from JSON,
and from the arguments, which may replace some pegs of a triple that has been accepted. None of them
gives pegs of which two have the same label, or a label that is blank or a control. The ways that
read a number of disks from words give at most 64 disks. Solving a puzzle with such pegs therefore
never asks its sink to record a move from a peg to itself, or to a peg that is not one of the three.

Which moves a sink is asked to record does not follow from its state, since it may refuse them. So
they are logged in front of it.

## Main definitions

* `Pegs.Labelled`: the labels are different, and none is blank or a control.
* `Move.Joins`: a move goes from one of three pegs to another.
* `Sink.logging`: a sink with a log of the moves that it is asked to record.

## Main results

* `Pegs.ofRoles_eq_ok_iff`: three pegs are accepted if they are different.
* `feed_logging`: the moves that are recorded come first among those that are fed.
* `labels_always_valid`: all the ways to pegs and puzzles, and the moves that are recorded.
-/

namespace TowerOfHanoi

/-! ### Labels -/

/-- No two pegs share a label, and no label is blank or a control. -/
structure Pegs.Labelled (pegs : Pegs) : Prop where
  /-- The labels are different. -/
  different : [pegs.source.label, pegs.destination.label, pegs.auxiliary.label].Nodup
  /-- No label is blank. -/
  visible : ∀ c ∈ [pegs.source.label, pegs.destination.label, pegs.auxiliary.label],
    Text.isBlank c = false
  /-- No label is a control. -/
  printable : ∀ c ∈ [pegs.source.label, pegs.destination.label, pegs.auxiliary.label],
    Text.isControl c = false

/-- A word names a peg if it is its label. -/
theorem Peg.ofToken_eq_ok_iff {token : String} {peg : Peg} :
    ofToken token = .ok peg ↔ token = peg.text := by
  constructor
  · intro h
    unfold ofToken at h
    split at h
    · rename_i c hchars
      rw [text, ofChar_eq_ok_iff.mp h, Char.toString_eq_singleton, ← String.toList_inj, hchars,
        String.toList_singleton]
    · cases h
  · rintro rfl
    exact ofToken_text peg

namespace Pegs

theorem nodup_labels_iff {pegs : Pegs} :
    [pegs.source.label, pegs.destination.label, pegs.auxiliary.label].Nodup ↔ pegs.Distinct := by
  simp [Distinct, Peg.ext_iff, and_assoc]

theorem labelled_of_distinct {pegs : Pegs} (hdistinct : pegs.Distinct) : pegs.Labelled where
  different := nodup_labels_iff.mpr hdistinct
  visible := by simp
  printable := by simp

theorem Labelled.distinct {pegs : Pegs} (hlabels : pegs.Labelled) : pegs.Distinct :=
  nodup_labels_iff.mp hlabels.different

theorem ofRoles_eq_ok_iff {source destination auxiliary : Peg} {pegs : Pegs} :
    ofRoles source destination auxiliary = .ok pegs ↔
      source = pegs.source ∧ destination = pegs.destination ∧ auxiliary = pegs.auxiliary ∧
        pegs.Labelled := by
  constructor
  · intro h
    have hlabels := labelled_of_distinct (distinct_of_ofRoles h)
    unfold ofRoles at h
    split at h
    · cases h
    · split at h
      · cases h
      · cases h
        exact ⟨rfl, rfl, rfl, hlabels⟩
  · rintro ⟨rfl, rfl, rfl, hlabels⟩
    exact ofRoles_eq_ok hlabels.distinct

/-- Three pegs that are made one after the other are accepted if each of them is made and they are
different. -/
theorem ofRoles_bind_eq_ok_iff {α : Type} {make : α → Except PegError Peg} {s d a : α}
    {pegs : Pegs} :
    (do ofRoles (← make s) (← make d) (← make a)) = .ok pegs ↔
      make s = .ok pegs.source ∧ make d = .ok pegs.destination ∧ make a = .ok pegs.auxiliary ∧
        pegs.Labelled := by
  constructor
  · intro h
    obtain ⟨source, hs, h⟩ := exists_of_bind_eq_ok h
    obtain ⟨destination, hd, h⟩ := exists_of_bind_eq_ok h
    obtain ⟨auxiliary, ha, h⟩ := exists_of_bind_eq_ok h
    obtain ⟨rfl, rfl, rfl, hlabels⟩ := ofRoles_eq_ok_iff.mp h
    exact ⟨hs, hd, ha, hlabels⟩
  · rintro ⟨hs, hd, ha, hlabels⟩
    rw [hs, hd, ha]
    exact ofRoles_eq_ok hlabels.distinct

theorem labelled_standard : standard.Labelled :=
  labelled_of_distinct (by decide)

end Pegs

/-! ### Puzzles from words -/

theorem Pegs.labelled_of_ofLabels {labels : List String} {pegs : Pegs}
    (h : ofLabels labels = .ok pegs) : pegs.Labelled := by
  unfold ofLabels at h
  split at h
  · cases h
    exact labelled_standard
  · exact (ofRoles_bind_eq_ok_iff.mp (eq_ok_of_mapError_eq_ok h)).2.2.2
  · cases h

/-- No more disks than can be solved are read from a word. -/
theorem disks_le_of_parseDisks {token : String} {disks : UInt32}
    (h : parseDisks token = .ok disks) : disks ≤ 64 := by
  simp only [parseDisks] at h
  split at h
  · cases h
  · cases h
  · cases h
  · split at h
    · cases h
    · split at h
      · rename_i value _ _ hvalue
        cases h
        change value ≤ 64 at hvalue
        rw [UInt32.le_iff_toNat_le, UInt32.toNat_ofNat']
        exact Nat.le_trans (Nat.mod_le _ _) hvalue
      · cases h

namespace Puzzle

variable {puzzle : Puzzle}

/-- A puzzle that is read from a text can be solved, and its pegs can be told apart. -/
theorem labelled_of_parse {text : String} (h : parse text = .ok puzzle) :
    puzzle.pegs.Labelled ∧ puzzle.disks ≤ 64 := by
  rw [parse_eq] at h
  split at h
  · cases h
  · obtain ⟨disks, hdisks, h⟩ := exists_of_bind_eq_ok h
    obtain ⟨pegs, hpegs, h⟩ := exists_of_bind_eq_ok h
    cases h
    exact ⟨Pegs.labelled_of_ofLabels hpegs, disks_le_of_parseDisks hdisks⟩

theorem labelled_of_readFrom {reader : List Delivery} (h : readFrom reader = .ok puzzle) :
    puzzle.pegs.Labelled ∧ puzzle.disks ≤ 64 := by
  rw [readFrom_eq] at h
  obtain ⟨text, -, h⟩ := exists_of_bind_eq_ok h
  exact labelled_of_parse h

end Puzzle

/-! ### Puzzles from JSON and from the arguments -/

theorem Pegs.labelled_of_ofJson {text : String} {pegs : Pegs} (h : ofJson text = .ok pegs) :
    pegs.Labelled := by
  obtain ⟨draft, hdraft⟩ := Json.exists_of_decodeText h
  exact labelled_of_distinct (distinct_of_decode hdraft)

theorem Puzzle.labelled_of_ofJson {text : String} {puzzle : Puzzle}
    (h : ofJson text = .ok puzzle) : puzzle.pegs.Labelled := by
  obtain ⟨draft, hdraft⟩ := Json.exists_of_decodeText h
  exact Pegs.labelled_of_distinct (distinct_of_decode hdraft)

namespace CommandLine.Options

variable (options : Options) (input : List Delivery)

/-- The puzzle before pegs are replaced has the number of disks among the arguments and the standard
pegs, or it is read from the input. -/
def base : Except Failure Puzzle :=
  match options.disks with
  | some token => ((parseDisks token).map (⟨·, Pegs.standard⟩)).mapError .disks
  | none => (Puzzle.readFrom input).mapError .input

theorem puzzle_eq : options.puzzle input = (options.base input).bind options.replaceIn := by
  unfold base puzzle puzzleNoting baseNoting
  cases options.disks <;> rfl

/-- The number of disks comes from words in either case, and all three pegs are compared once some
of them have been replaced. -/
theorem labelled_of_puzzle {options : Options} {input : List Delivery} {puzzle : Puzzle}
    (h : options.puzzle input = .ok puzzle) : puzzle.pegs.Labelled ∧ puzzle.disks ≤ 64 := by
  rw [puzzle_eq] at h
  obtain ⟨base, hbase, h⟩ := exists_of_bind_eq_ok h
  have hdisks : base.disks ≤ 64 := by
    unfold Options.base at hbase
    split at hbase
    · obtain ⟨disks, hdisks, rfl⟩ := exists_of_map_eq_ok (eq_ok_of_mapError_eq_ok hbase)
      exact disks_le_of_parseDisks hdisks
    · exact (Puzzle.labelled_of_readFrom (eq_ok_of_mapError_eq_ok hbase)).2
  obtain ⟨pegs, hpegs, rfl⟩ := exists_of_map_eq_ok (eq_ok_of_mapError_eq_ok h)
  exact ⟨(Pegs.ofRoles_eq_ok_iff.mp hpegs).2.2.2, hdisks⟩

end CommandLine.Options

/-! ### Moves that are recorded -/

/-- A move goes from one of three pegs to another of them. -/
structure Move.Joins (pegs : Pegs) (move : Move) : Prop where
  source_mem : move.source ∈ [pegs.source, pegs.destination, pegs.auxiliary]
  target_mem : move.target ∈ [pegs.source, pegs.destination, pegs.auxiliary]
  source_ne_target : move.source ≠ move.target

/-- A transfer uses its three pegs and no others. -/
theorem mem_pegs_of_mem_steps {disks : Nat} {source target spare : Peg} {move : Move}
    (hmove : move ∈ steps disks source target spare) :
    move.source ∈ [source, target, spare] ∧ move.target ∈ [source, target, spare] := by
  induction disks generalizing source target spare with
  | zero => simp [steps] at hmove
  | succ disks ih =>
    rw [steps, List.mem_append, List.mem_append, List.mem_singleton] at hmove
    rcases hmove with (hleave | rfl) | hfollow
    · have hpegs := ih hleave
      grind
    · simp
    · have hpegs := ih hfollow
      grind

theorem Puzzle.joins_of_mem_steps {puzzle : Puzzle} (hlabels : puzzle.pegs.Labelled) {move : Move}
    (hmove : move ∈ puzzle.steps) : move.Joins puzzle.pegs := by
  obtain ⟨hsd, hsa, hda⟩ := hlabels.distinct
  obtain ⟨hsource, htarget⟩ := mem_pegs_of_mem_steps hmove
  exact ⟨hsource, htarget, source_ne_target_of_mem_steps hsd hsa hda hmove⟩

section Logging

variable {σ ε : Type} (record : Move → σ → Except ε Unit × σ)

/-- The sink that logs each move it is asked to record, and then records it with the given
function. -/
def Sink.logging : Sink (StateM (List Move × σ)) ε :=
  .ofRecord fun move (log, state) =>
    ((record move state).1, log ++ [move], (record move state).2)

/-- The log grows by the moves that come first among those that are fed. Beside it nothing is
changed. -/
theorem feed_logging (moves : List Move) (log : List Move) (state : σ) :
    ∃ tried, tried <+: moves ∧
      feed (Sink.logging record).record moves (log, state) =
        ((feed record moves state).1, log ++ tried, (feed record moves state).2) :=
  ⟨_, map_fst_callsOf_prefix record moves state,
    feed_auditing record (fun move _ => move) moves log state⟩

theorem solve_logging {puzzle : Puzzle} (hlabels : puzzle.pegs.Labelled) (state : σ) :
    ∃ log, (∀ move ∈ log, move.Joins puzzle.pegs) ∧
      (solve (.logging record) puzzle).run.run ([], state) =
        (((solve (.ofRecord record) puzzle).run.run state).1, log,
          ((solve (.ofRecord record) puzzle).run.run state).2) := by
  by_cases excess : Puzzle.maxDisks < puzzle.disks
  · refine ⟨[], List.forall_mem_nil _, ?_⟩
    rw [Sink.logging, solve_ofRecord_of_lt _ excess, solve_ofRecord_of_lt _ excess]
  · have bound : puzzle.disks ≤ Puzzle.maxDisks := UInt32.not_lt.mp excess
    obtain ⟨log, hfirst, hfed⟩ := feed_logging record puzzle.steps [] state
    refine ⟨log, fun move hmove => puzzle.joins_of_mem_steps hlabels (hfirst.subset hmove), ?_⟩
    rw [Sink.logging, solve_ofRecord _ bound, solve_ofRecord _ bound]
    change Prod.map _ _ (feed (Sink.logging record).record puzzle.steps ([], state)) = _
    rw [hfed]
    rfl

end Logging

/-- **Labels are valid whichever way they come.** Characters, words and pegs make three pegs if and
only if they are the labels of three different pegs, none of them blank or a control. The standard
pegs, the pegs of a puzzle that is read from a text or from a reader, those that are read from JSON,
alone or within a puzzle, and those that are left when the arguments have replaced any of them, are
of this kind too, and where the number of disks is read from words it is at most 64. Solving a
puzzle with such pegs asks a sink to record only moves from one of them to another. -/
theorem labels_always_valid :
    (∀ source destination auxiliary pegs,
      Pegs.ofRoles source destination auxiliary = .ok pegs ↔
        source = pegs.source ∧ destination = pegs.destination ∧ auxiliary = pegs.auxiliary ∧
          pegs.Labelled) ∧
    (∀ (s d a : Char) (pegs : Pegs),
      (do Pegs.ofRoles (← Peg.ofChar s) (← Peg.ofChar d) (← Peg.ofChar a)) = .ok pegs ↔
        s = pegs.source.label ∧ d = pegs.destination.label ∧ a = pegs.auxiliary.label ∧
          pegs.Labelled) ∧
    (∀ (s d a : String) (pegs : Pegs),
      (do Pegs.ofRoles (← Peg.ofToken s) (← Peg.ofToken d) (← Peg.ofToken a)) = .ok pegs ↔
        s = pegs.source.text ∧ d = pegs.destination.text ∧ a = pegs.auxiliary.text ∧
          pegs.Labelled) ∧
    Pegs.standard.Labelled ∧
    (∀ text puzzle, Puzzle.parse text = .ok puzzle →
      puzzle.pegs.Labelled ∧ puzzle.disks ≤ 64) ∧
    (∀ reader puzzle, Puzzle.readFrom reader = .ok puzzle →
      puzzle.pegs.Labelled ∧ puzzle.disks ≤ 64) ∧
    (∀ text pegs, Pegs.ofJson text = .ok pegs → pegs.Labelled) ∧
    (∀ text puzzle, Puzzle.ofJson text = .ok puzzle → puzzle.pegs.Labelled) ∧
    (∀ (options : CommandLine.Options) input puzzle, options.puzzle input = .ok puzzle →
      puzzle.pegs.Labelled ∧ puzzle.disks ≤ 64) ∧
    ∀ puzzle : Puzzle, puzzle.pegs.Labelled →
      ∀ {σ ε : Type} (record : Move → σ → Except ε Unit × σ) (state : σ),
        ∃ log, (∀ move ∈ log, move.Joins puzzle.pegs) ∧
          (solve (.logging record) puzzle).run.run ([], state) =
            (((solve (.ofRecord record) puzzle).run.run state).1, log,
              ((solve (.ofRecord record) puzzle).run.run state).2) := by
  refine ⟨fun _ _ _ _ => Pegs.ofRoles_eq_ok_iff, fun s d a pegs => ?_, fun s d a pegs => ?_,
    Pegs.labelled_standard, fun _ _ => Puzzle.labelled_of_parse,
    fun _ _ => Puzzle.labelled_of_readFrom, fun _ _ => Pegs.labelled_of_ofJson,
    fun _ _ => Puzzle.labelled_of_ofJson, fun _ _ _ => CommandLine.Options.labelled_of_puzzle,
    fun _ hlabels _ _ record state => solve_logging record hlabels state⟩
  · rw [Pegs.ofRoles_bind_eq_ok_iff, Peg.ofChar_eq_ok_iff, Peg.ofChar_eq_ok_iff,
      Peg.ofChar_eq_ok_iff, eq_comm, eq_comm (b := d), eq_comm (b := a)]
  · rw [Pegs.ofRoles_bind_eq_ok_iff, Peg.ofToken_eq_ok_iff, Peg.ofToken_eq_ok_iff,
      Peg.ofToken_eq_ok_iff]

/-- A label of two bytes with an interruption between them, a label that is an escape in JSON, two
of the standard pegs in exchanged roles, and a sink that refuses its second move. -/
theorem labels_always_valid_exchanged :
    (∃ pegs,
      (do Pegs.ofRoles (← Peg.ofChar '>') (← Peg.ofChar '-') (← Peg.ofChar ':')) = .ok pegs) ∧
    (∃ puzzle, Puzzle.parse "64 X Z Y" = .ok puzzle ∧
      puzzle.pegs.Labelled ∧ puzzle.disks ≤ 64) ∧
    (∃ puzzle, Puzzle.readFrom [.bytes [0x37, 0x20, 0xc3], .interrupted,
        .bytes [0xa9, 0x20, 0x3a, 0x20, 0x27]] = .ok puzzle ∧
      puzzle.pegs.Labelled ∧ puzzle.disks ≤ 64) ∧
    (∃ pegs, Pegs.ofJson ("\x7b\"auxiliary\":\"\\u0022\",\"source\":\"\\\\\"," ++
        "\"destination\":\"/\"\x7d") = .ok pegs ∧ pegs.Labelled) ∧
    (∃ puzzle, Puzzle.ofJson ("\x7b\"pegs\":\x7b\"auxiliary\":\"\\u0022\"," ++
        "\"source\":\"\\\\\",\"destination\":\"/\"\x7d,\"disks\":65\x7d") = .ok puzzle ∧
      puzzle.pegs.Labelled) ∧
    (∃ puzzle, CommandLine.Options.puzzle
        { source := some ⟨'B', by decide⟩, auxiliary := some ⟨'A', by decide⟩ }
        [.bytes [0x32]] = .ok puzzle ∧ puzzle.pegs.Labelled ∧ puzzle.disks ≤ 64) ∧
    ∃ log, (∀ move ∈ log, move.Joins .standard) ∧
      (solve (.logging fun _ room => if room = 0 then (.error "full", room) else (.ok (), room - 1))
        ⟨5, .standard⟩).run.run ([], 1) = (.error (.sink "full"), log, 0) := by
  obtain ⟨-, hchars, -, hstandard, hparse, hread, hpegs, hpuzzle, hoptions, hlog⟩ :=
    labels_always_valid
  have parsed : Puzzle.parse "64 X Z Y" =
      .ok ⟨64, ⟨'X', by decide⟩, ⟨'Z', by decide⟩, ⟨'Y', by decide⟩⟩ := by
    decide +kernel
  have read : Puzzle.readFrom [.bytes [0x37, 0x20, 0xc3], .interrupted,
      .bytes [0xa9, 0x20, 0x3a, 0x20, 0x27]] =
      .ok ⟨7, ⟨'é', by decide⟩, ⟨':', by decide⟩, ⟨'\x27', by decide⟩⟩ := by
    decide +kernel
  have decoded : Pegs.ofJson ("\x7b\"auxiliary\":\"\\u0022\",\"source\":\"\\\\\"," ++
      "\"destination\":\"/\"\x7d") =
      .ok ⟨⟨'\\', by decide⟩, ⟨'/', by decide⟩, ⟨'\x22', by decide⟩⟩ := by
    exact eq_ok_of_toOption (by decide +kernel)
  have decodedPuzzle : Puzzle.ofJson ("\x7b\"pegs\":\x7b\"auxiliary\":\"\\u0022\"," ++
      "\"source\":\"\\\\\",\"destination\":\"/\"\x7d,\"disks\":65\x7d") =
      .ok ⟨65, ⟨'\\', by decide⟩, ⟨'/', by decide⟩, ⟨'\x22', by decide⟩⟩ := by
    exact eq_ok_of_toOption (by decide +kernel)
  have replaced : CommandLine.Options.puzzle
      { source := some ⟨'B', by decide⟩, auxiliary := some ⟨'A', by decide⟩ } [.bytes [0x32]] =
      .ok ⟨2, ⟨'B', by decide⟩, ⟨'C', by decide⟩, ⟨'A', by decide⟩⟩ := by
    exact eq_ok_of_toOption (by decide +kernel)
  obtain ⟨log, hjoins, hsolve⟩ := hlog ⟨5, .standard⟩ hstandard
    (fun _ room => if room = 0 then (.error "full", room) else (.ok (), room - 1)) 1
  exact ⟨⟨⟨⟨'>', by decide⟩, ⟨'-', by decide⟩, ⟨':', by decide⟩⟩,
      (hchars _ _ _ _).mpr ⟨rfl, rfl, rfl, Pegs.labelled_of_distinct (by decide)⟩⟩,
    ⟨_, parsed, hparse _ _ parsed⟩, ⟨_, read, hread _ _ read⟩, ⟨_, decoded, hpegs _ _ decoded⟩,
    ⟨_, decodedPuzzle, hpuzzle _ _ decodedPuzzle⟩, ⟨_, replaced, hoptions _ _ _ replaced⟩,
    log, hjoins, hsolve.trans rfl⟩

end TowerOfHanoi
