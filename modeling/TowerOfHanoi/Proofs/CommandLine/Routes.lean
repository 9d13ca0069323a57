import TowerOfHanoi.Proofs.Input.Labels

/-!
# Two ways to a puzzle

The puzzle is given by the arguments alone, or it is read from the input and the arguments replace
some of its pegs. A number of disks and three pegs among the arguments come to what the same words
come to as a text, faults included. Of the input, what counts is the number of disks and the pegs
of the roles that the arguments leave open: the pegs are compared once more when those that are set
have been put in their places, and nothing else can fail after the input has been accepted. An
input that is refused is reported, whatever the arguments would have replaced.

## Main definitions

* `Pegs.peg`: the peg of a role.
* `Options.Overrides`: three pegs are others with those replaced that are set.

## Main results

* `puzzle_of_disks`, `puzzle_of_input`: the puzzle on either way.
* `overrides_iff`: which pegs are left is known from the arguments and the pegs before.
* `arguments_agree_with_input`: both ways, for all arguments and inputs.
-/

namespace TowerOfHanoi

/-! ### Words between spaces -/

section Words

variable {token text : String} {tokens : List String}

/-- A text that is one word. -/
theorem Text.hasWords_single (nonempty : token.toList ≠ [])
    (solid : ∀ c ∈ token.toList, isBlank c = false) : HasWords token [token] := by
  have hcut := Cut.run_front nonempty solid (by simp) (Cut.blanks (List.forall_mem_nil _))
  rwa [List.append_nil] at hcut

/-- A word and a space in front of a text. -/
theorem Text.HasWords.cons (hwords : HasWords text tokens) (nonempty : token.toList ≠ [])
    (solid : ∀ c ∈ token.toList, isBlank c = false) :
    HasWords (token ++ " " ++ text) (token :: tokens) := by
  have hspace : isBlank ' ' = true := rfl
  have hcut := Cut.run_front nonempty solid (by simp [hspace]) (Cut.cons_blank hwords hspace)
  rw [HasWords, String.toList_append, String.toList_append, List.append_assoc]
  exact hcut

/-- A label is a word. -/
theorem Peg.solid_text (peg : Peg) :
    peg.text.toList ≠ [] ∧ ∀ c ∈ peg.text.toList, Text.isBlank c = false := by
  simp [text, Char.toString_eq_singleton]

/-- The words of a text that has a word and three labels, with a space between each of them. -/
theorem Text.words_labels (nonempty : token.toList ≠ [])
    (solid : ∀ c ∈ token.toList, isBlank c = false) (source destination auxiliary : Peg) :
    words (token ++ " " ++ source.text ++ " " ++ destination.text ++ " " ++ auxiliary.text) =
      [token, source.text, destination.text, auxiliary.text] := by
  have hlabels := ((hasWords_single auxiliary.solid_text.1 auxiliary.solid_text.2).cons
    destination.solid_text.1 destination.solid_text.2).cons source.solid_text.1
    source.solid_text.2
  have hwords := hasWords_iff.mp (hlabels.cons nonempty solid)
  simp only [String.append_assoc] at hwords ⊢
  exact hwords.symm

end Words

/-! ### Roles -/

/-- The peg of a role. -/
def Pegs.peg (pegs : Pegs) : CommandLine.Role → Peg
  | .source => pegs.source
  | .destination => pegs.destination
  | .auxiliary => pegs.auxiliary

theorem Pegs.eq_of_peg_eq {pegs other : Pegs} (h : ∀ role, pegs.peg role = other.peg role) :
    pegs = other := by
  have hsource : pegs.source = other.source := h .source
  have hdestination : pegs.destination = other.destination := h .destination
  have hauxiliary : pegs.auxiliary = other.auxiliary := h .auxiliary
  cases pegs
  cases other
  simp_all

/-- Of three pegs that are not different, the one is reported that comes first. -/
theorem Pegs.ofRoles_of_source_shared {source destination auxiliary : Peg}
    (hshared : source = destination ∨ source = auxiliary) :
    ofRoles source destination auxiliary = .error (.duplicate source) :=
  if_pos hshared

theorem Pegs.ofRoles_of_destination_shared {source destination auxiliary : Peg}
    (hsd : source ≠ destination) (hsa : source ≠ auxiliary) (hshared : destination = auxiliary) :
    ofRoles source destination auxiliary = .error (.duplicate destination) := by
  rw [ofRoles, if_neg (not_or.mpr ⟨hsd, hsa⟩), if_pos hshared]

namespace CommandLine

/-- Three pegs are others with those replaced that are set: a role has the peg that is set for it,
and without one it has the peg that it had. -/
structure Options.Overrides (options : Options) (pegs merged : Pegs) : Prop where
  /-- A peg that is set is there. -/
  given : ∀ role peg, options.peg? role = some peg → merged.peg role = peg
  /-- Where none is set, nothing has changed. -/
  kept : ∀ role, options.peg? role = none → merged.peg role = pegs.peg role

namespace Options

variable (options : Options)

/-- The pegs that are compared after those that are set have been put in their places. -/
def merge (pegs : Pegs) : Pegs where
  source := options.source.getD pegs.source
  destination := options.destination.getD pegs.destination
  auxiliary := options.auxiliary.getD pegs.auxiliary

theorem peg_merge (pegs : Pegs) (role : Role) :
    (options.merge pegs).peg role = (options.peg? role).getD (pegs.peg role) := by
  cases role <;> rfl

theorem replacePegs_eq (pegs : Pegs) :
    options.replacePegs pegs = Pegs.ofRoles (options.merge pegs).source
      (options.merge pegs).destination (options.merge pegs).auxiliary :=
  rfl

variable {options}

/-- Which pegs are left is known from the arguments and the pegs before. -/
theorem overrides_iff {pegs merged : Pegs} :
    options.Overrides pegs merged ↔ merged = options.merge pegs := by
  constructor
  · intro hoverrides
    refine Pegs.eq_of_peg_eq fun role => ?_
    rw [peg_merge]
    cases hpeg : options.peg? role with
    | none => exact hoverrides.kept role hpeg
    | some peg => exact hoverrides.given role peg hpeg
  · rintro rfl
    refine ⟨fun role peg hpeg => ?_, fun role hpeg => ?_⟩ <;> rw [peg_merge, hpeg] <;> rfl

/-- Only the pegs of the roles that are left open count. -/
theorem merge_congr {pegs other : Pegs}
    (hopen : ∀ role, options.peg? role = none → pegs.peg role = other.peg role) :
    options.merge pegs = options.merge other := by
  refine Pegs.eq_of_peg_eq fun role => ?_
  rw [peg_merge, peg_merge]
  cases hpeg : options.peg? role with
  | none => exact hopen role hpeg
  | some peg => rfl

theorem merge_of_none (hnone : ∀ role, options.peg? role = none) (pegs : Pegs) :
    options.merge pegs = pegs := by
  refine Pegs.eq_of_peg_eq fun role => ?_
  rw [peg_merge, hnone]
  rfl

theorem merge_of_some {pegs : Pegs} (hsome : ∀ role, options.peg? role = some (pegs.peg role))
    (before : Pegs) : options.merge before = pegs := by
  refine Pegs.eq_of_peg_eq fun role => ?_
  rw [peg_merge, hsome]
  rfl

/-! ### A number of disks among the arguments -/

section Disks

variable {input : List Delivery} {token : String}

theorem puzzle_of_disks (htoken : options.disks = some token) :
    options.puzzle input =
      (((parseDisks token).map (⟨·, Pegs.standard⟩)).mapError .disks).bind options.replaceIn := by
  rw [puzzle_eq, base, htoken]

/-- No fault of a stream is behind a word that is refused as the number of disks. -/
theorem inputCauses_of_parseDisks {fault : InputError} (hdisks : parseDisks token = .error fault) :
    inputCauses fault = [fault.message] := by
  simp only [parseDisks] at hdisks
  split at hdisks
  · cases hdisks
    rfl
  · cases hdisks
    rfl
  · cases hdisks
    rfl
  · split at hdisks
    · cases hdisks
      rfl
    · split at hdisks
      · cases hdisks
      · cases hdisks
        rfl

/-- What is said of the number of disks and the pegs that are left is what is said of them as parts
of a text. -/
theorem causes_puzzle_of_disks (htoken : options.disks = some token) {pegs : Pegs}
    (hmerge : options.merge .standard = pegs) :
    (options.puzzle input).mapError Failure.causes =
      ((parseDisks token).bind fun disks =>
        ((Pegs.ofRoles pegs.source pegs.destination pegs.auxiliary).map
          (⟨disks, ·⟩)).mapError .peg).mapError fun error => [error.message] := by
  rw [puzzle_of_disks htoken]
  cases hdisks : parseDisks token with
  | error fault => exact congrArg Except.error (inputCauses_of_parseDisks hdisks)
  | ok disks =>
    change ((options.replaceIn ⟨disks, .standard⟩).mapError _) = _
    rw [replaceIn, replacePegs_eq, hmerge]
    change _ = (Except.mapError _ (Except.mapError _ _))
    cases Pegs.ofRoles pegs.source pegs.destination pegs.auxiliary <;> rfl

/-- Three pegs that are set are compared like three labels behind the number of disks. -/
theorem causes_puzzle_of_pegs (htoken : options.disks = some token)
    (nonempty : token.toList ≠ []) (solid : ∀ c ∈ token.toList, Text.isBlank c = false)
    {pegs : Pegs} (hpegs : ∀ role, options.peg? role = some (pegs.peg role)) :
    (options.puzzle input).mapError Failure.causes =
      (Puzzle.parse (token ++ " " ++ pegs.source.text ++ " " ++ pegs.destination.text ++ " " ++
        pegs.auxiliary.text)).mapError fun error => [error.message] := by
  have hwords := Text.words_labels nonempty solid pegs.source pegs.destination pegs.auxiliary
  rw [causes_puzzle_of_disks htoken (merge_of_some hpegs .standard)]
  cases hdisks : parseDisks token with
  | error fault => rw [Puzzle.parse_of_disks_eq_error hwords hdisks]; rfl
  | ok disks =>
    rw [Puzzle.parse_of_disks_eq_ok hwords hdisks, Pegs.ofLabels_text]
    change (Except.mapError _ (Except.mapError _ _)) = _
    cases Pegs.ofRoles pegs.source pegs.destination pegs.auxiliary <;> rfl

/-- Where no peg is set, the standard pegs are left. -/
theorem causes_puzzle_of_none (htoken : options.disks = some token)
    (nonempty : token.toList ≠ []) (solid : ∀ c ∈ token.toList, Text.isBlank c = false)
    (hnone : ∀ role, options.peg? role = none) :
    (options.puzzle input).mapError Failure.causes =
      (Puzzle.parse token).mapError fun error => [error.message] := by
  have hwords := (Text.hasWords_iff.mp (Text.hasWords_single nonempty solid)).symm
  rw [causes_puzzle_of_disks htoken (merge_of_none hnone .standard),
    Pegs.ofRoles_eq_ok Pegs.labelled_standard.distinct]
  cases hdisks : parseDisks token with
  | error fault => rw [Puzzle.parse_of_disks_eq_error hwords hdisks]; rfl
  | ok disks => rw [Puzzle.parse_of_disks_eq_ok hwords hdisks]; rfl

end Disks

/-! ### A puzzle in the input -/

section Input

variable {input : List Delivery} {puzzle : Puzzle}

theorem puzzle_of_input (hdisks : options.disks = none)
    (hread : Puzzle.readFrom input = .ok puzzle) :
    options.puzzle input = options.replaceIn puzzle := by
  rw [puzzle_eq, base, hdisks, hread]
  rfl

/-- An input that is refused is reported, whatever pegs are set. -/
theorem puzzle_of_refused (hdisks : options.disks = none) {fault : InputError}
    (hread : Puzzle.readFrom input = .error fault) :
    options.puzzle input = .error (.input fault) := by
  rw [puzzle_eq, base, hdisks, hread]
  rfl

theorem replaceIn_of_error {fault : PegError} (hpegs : Pegs.ofRoles
      (options.merge puzzle.pegs).source (options.merge puzzle.pegs).destination
      (options.merge puzzle.pegs).auxiliary = .error fault) :
    options.replaceIn puzzle = .error (.pegs fault) := by
  rw [replaceIn, replacePegs_eq, hpegs]
  rfl

/-- The pegs are replaced if those that are left are different. -/
theorem replaceIn_eq_ok_iff {replaced : Puzzle} :
    options.replaceIn puzzle = .ok replaced ↔
      (options.merge puzzle.pegs).Distinct ∧
        replaced = ⟨puzzle.disks, options.merge puzzle.pegs⟩ := by
  rw [replaceIn, replacePegs_eq]
  constructor
  · intro h
    obtain ⟨pegs, hpegs, rfl⟩ := exists_of_map_eq_ok (eq_ok_of_mapError_eq_ok h)
    obtain ⟨hsource, hdestination, hauxiliary, hlabels⟩ := Pegs.ofRoles_eq_ok_iff.mp hpegs
    have heq : options.merge puzzle.pegs = pegs :=
      Pegs.eq_of_peg_eq fun role => by cases role <;> assumption
    rw [heq]
    exact ⟨hlabels.distinct, rfl⟩
  · rintro ⟨hdistinct, rfl⟩
    rw [Pegs.ofRoles_eq_ok hdistinct]
    rfl

end Input

end Options

/-- **The arguments and the input describe puzzles alike.** A word for the number of disks among the
arguments comes to what it comes to in a text, with the labels of three pegs behind it if these are
set, and alone if none is set: to the same puzzle or to the same words about what is wrong. If the
puzzle is read from the input, three pegs are left when those that are set have replaced those of
their roles. The result is the number of disks that was read with these pegs if and only if their
labels are different; otherwise the source that is left is reported as used twice, or else the
destination. So of the input only the number of disks and the pegs of the other roles count, and
where no peg is set it is the result. An input that is refused is reported, whatever is set. -/
theorem arguments_agree_with_input :
    (∀ (options : Options) (input : List Delivery) (token : String), options.disks = some token →
      token ≠ "" → (∀ c ∈ token.toList, Text.isBlank c = false) →
      (∀ source destination auxiliary, options.source = some source →
        options.destination = some destination → options.auxiliary = some auxiliary →
        (options.puzzle input).mapError Failure.causes =
          (Puzzle.parse (token ++ " " ++ source.text ++ " " ++ destination.text ++ " " ++
            auxiliary.text)).mapError fun error => [error.message]) ∧
      ((∀ role, options.peg? role = none) →
        (options.puzzle input).mapError Failure.causes =
          (Puzzle.parse token).mapError fun error => [error.message])) ∧
    ∀ (options : Options) (input : List Delivery), options.disks = none →
      (∀ puzzle, Puzzle.readFrom input = .ok puzzle →
        (∃ merged, (∀ pegs, options.Overrides puzzle.pegs pegs ↔ pegs = merged) ∧
          (∀ replaced, options.puzzle input = .ok replaced ↔
            [merged.source.label, merged.destination.label, merged.auxiliary.label].Nodup ∧
              replaced = ⟨puzzle.disks, merged⟩) ∧
          (merged.source = merged.destination ∨ merged.source = merged.auxiliary →
            options.puzzle input = .error (.pegs (.duplicate merged.source))) ∧
          (merged.source ≠ merged.destination → merged.source ≠ merged.auxiliary →
            merged.destination = merged.auxiliary →
            options.puzzle input = .error (.pegs (.duplicate merged.destination)))) ∧
        (∀ other otherPuzzle, Puzzle.readFrom other = .ok otherPuzzle →
          otherPuzzle.disks = puzzle.disks →
          (∀ role, options.peg? role = none →
            otherPuzzle.pegs.peg role = puzzle.pegs.peg role) →
          options.puzzle other = options.puzzle input) ∧
        ((∀ role, options.peg? role = none) → options.puzzle input = .ok puzzle)) ∧
      ∀ fault, Puzzle.readFrom input = .error fault →
        options.puzzle input = .error (.input fault) := by
  refine ⟨fun options input token htoken htext solid => ?_, fun options input hdisks =>
    ⟨fun puzzle hread => ⟨⟨options.merge puzzle.pegs, fun pegs => Options.overrides_iff,
      fun replaced => ?_, fun hshared => ?_, fun hsd hsa hshared => ?_⟩,
      fun other otherPuzzle hother hsame hopen => ?_, fun hnone => ?_⟩,
      fun fault => Options.puzzle_of_refused hdisks⟩⟩
  · have nonempty : token.toList ≠ [] := by simpa using htext
    refine ⟨fun source destination auxiliary hsource hdestination hauxiliary => ?_,
      Options.causes_puzzle_of_none htoken nonempty solid⟩
    exact @Options.causes_puzzle_of_pegs _ _ _ htoken nonempty solid
      ⟨source, destination, auxiliary⟩ fun role => by cases role <;> assumption
  · rw [Options.puzzle_of_input hdisks hread, Options.replaceIn_eq_ok_iff, Pegs.nodup_labels_iff]
  · rw [Options.puzzle_of_input hdisks hread,
      Options.replaceIn_of_error (Pegs.ofRoles_of_source_shared hshared)]
  · rw [Options.puzzle_of_input hdisks hread,
      Options.replaceIn_of_error (Pegs.ofRoles_of_destination_shared hsd hsa hshared)]
  · rw [Options.puzzle_of_input hdisks hother, Options.puzzle_of_input hdisks hread,
      Options.replaceIn, Options.replaceIn, Options.replacePegs_eq, Options.replacePegs_eq,
      Options.merge_congr hopen, hsame]
  · have hlabels := (Puzzle.labelled_of_readFrom hread).1
    rw [Options.puzzle_of_input hdisks hread, Options.replaceIn_eq_ok_iff,
      Options.merge_of_none hnone]
    exact ⟨hlabels.distinct, rfl⟩

/-- A number with a sign and a label used twice, a word that is no number, pegs that change places,
pegs that are set to the label of another one, a peg that is replaced whatever it was, and a reader
that fails. -/
theorem arguments_agree_with_input_exchanged :
    (Options.puzzle
        { disks := some "+07", source := some ⟨'X', by decide⟩,
          destination := some ⟨'é', by decide⟩, auxiliary := some ⟨'X', by decide⟩ }
        []).mapError Failure.causes =
      (Puzzle.parse "+07 X é X").mapError (fun error => [error.message]) ∧
    (Options.puzzle { disks := some "x" } []).mapError Failure.causes =
      (Puzzle.parse "x").mapError (fun error => [error.message]) ∧
    Options.puzzle { source := some ⟨'C', by decide⟩, auxiliary := some ⟨'A', by decide⟩ }
        [.bytes [0x35, 0x20, 0x41, 0x20, 0x42, 0x20, 0x43]] =
      .ok ⟨5, ⟨'C', by decide⟩, ⟨'B', by decide⟩, ⟨'A', by decide⟩⟩ ∧
    Options.puzzle { destination := some ⟨'A', by decide⟩ }
        [.bytes [0x35, 0x20, 0x41, 0x20, 0x42, 0x20, 0x43]] =
      .error (.pegs (.duplicate ⟨'A', by decide⟩)) ∧
    Options.puzzle { destination := some ⟨'C', by decide⟩ }
        [.bytes [0x35, 0x20, 0x41, 0x20, 0x42, 0x20, 0x43]] =
      .error (.pegs (.duplicate ⟨'C', by decide⟩)) ∧
    Options.puzzle { destination := some ⟨'C', by decide⟩ }
        [.bytes [0x35, 0x20, 0x41, 0x20, 0x44, 0x20, 0x43]] =
      .error (.pegs (.duplicate ⟨'C', by decide⟩)) ∧
    Options.puzzle {} [.bytes [0x35, 0x20, 0x41, 0x20, 0x42, 0x20, 0x43]] =
      .ok ⟨5, ⟨'A', by decide⟩, ⟨'B', by decide⟩, ⟨'C', by decide⟩⟩ ∧
    Options.puzzle { source := some ⟨'A', by decide⟩, destination := some ⟨'A', by decide⟩ }
        [.bytes [0x35], .failed .noSpace] =
      .error (.input (.stream .noSpace)) := by
  obtain ⟨harguments, hinput⟩ := arguments_agree_with_input
  have read : Puzzle.readFrom [.bytes [0x35, 0x20, 0x41, 0x20, 0x42, 0x20, 0x43]] =
      .ok ⟨5, ⟨'A', by decide⟩, ⟨'B', by decide⟩, ⟨'C', by decide⟩⟩ := by
    decide +kernel
  have readOther : Puzzle.readFrom [.bytes [0x35, 0x20, 0x41, 0x20, 0x44, 0x20, 0x43]] =
      .ok ⟨5, ⟨'A', by decide⟩, ⟨'D', by decide⟩, ⟨'C', by decide⟩⟩ := by
    decide +kernel
  have shared : Options.puzzle { destination := some ⟨'C', by decide⟩ }
      [.bytes [0x35, 0x20, 0x41, 0x20, 0x42, 0x20, 0x43]] =
      .error (.pegs (.duplicate ⟨'C', by decide⟩)) := by
    obtain ⟨⟨merged, hmerged, -, -, hdestination⟩, -⟩ :=
      (hinput { destination := some ⟨'C', by decide⟩ } _ rfl).1 _ read
    obtain rfl := (hmerged _).mp (Options.overrides_iff.mpr rfl)
    exact hdestination (by decide) (by decide) rfl
  have solid : ∀ c ∈ "+07".toList, Text.isBlank c = false := by simpa using by decide
  have solidLetter : ∀ c ∈ "x".toList, Text.isBlank c = false := by simpa using by decide
  refine ⟨?_, ?_, ?_, ?_, shared, ?_, ?_, (hinput _ _ rfl).2 _ rfl⟩
  · exact (harguments _ [] "+07" rfl (by decide) solid).1 ⟨'X', by decide⟩ ⟨'é', by decide⟩
      ⟨'X', by decide⟩ rfl rfl rfl
  · exact (harguments { disks := some "x" } [] "x" rfl (by decide) solidLetter).2
      fun role => by cases role <;> rfl
  · obtain ⟨⟨merged, hmerged, hok, -⟩, -⟩ := (hinput
      { source := some ⟨'C', by decide⟩, auxiliary := some ⟨'A', by decide⟩ } _ rfl).1 _ read
    obtain rfl := (hmerged _).mp (Options.overrides_iff.mpr rfl)
    exact (hok _).mpr ⟨by decide, rfl⟩
  · obtain ⟨⟨merged, hmerged, -, hsource, -⟩, -⟩ :=
      (hinput { destination := some ⟨'A', by decide⟩ } _ rfl).1 _ read
    obtain rfl := (hmerged _).mp (Options.overrides_iff.mpr rfl)
    exact hsource (.inl rfl)
  · rw [← shared]
    exact ((hinput _ _ rfl).1 _ read).2.1 _ _ readOther rfl
      fun role hopen => by cases role <;> first | rfl | cases hopen
  · exact ((hinput {} _ rfl).1 _ read).2.2 fun role => by cases role <;> rfl

end CommandLine

end TowerOfHanoi
