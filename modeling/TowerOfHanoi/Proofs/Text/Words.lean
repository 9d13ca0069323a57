import TowerOfHanoi.Text.Blank

/-!
# The words of a text by its shape

A text has its words in one pass from the end to the front, a character at a time. This file says
without any order of reading which words a text has: it is cut into gaps of blanks and runs of
other characters, and no run can be made longer. Every text has exactly one such cut, and its runs
are the words that are read.

## Main definitions

* `Text.Cut`: a list of characters is cut into gaps and runs.
* `Text.HasWords`: the same of texts.

## Main results

* `Text.cut_iff`: the runs of a cut are the words that are read.
* `Text.hasWords_iff`: every text has its words, and no others.
-/

namespace TowerOfHanoi.Text

/-- Characters are cut into gaps of blanks and runs of other characters. A run ends where the
characters end or a blank follows, and it begins where they begin or behind a gap, so it is as
long as it can be. -/
inductive Cut : List Char → List (List Char) → Prop
  /-- Nothing is left but blanks. -/
  | blanks {gap : List Char} (blank : ∀ c ∈ gap, isBlank c = true) : Cut gap []
  /-- A gap, which may be empty, and a run. -/
  | run {gap word rest : List Char} {words : List (List Char)}
      (blank : ∀ c ∈ gap, isBlank c = true) (nonempty : word ≠ [])
      (solid : ∀ c ∈ word, isBlank c = false) (ended : ∀ c ∈ rest.head?, isBlank c = true)
      (later : Cut rest words) : Cut (gap ++ word ++ rest) (word :: words)

/-- The words of a text are the runs it is cut into. -/
def HasWords (text : String) (words : List String) : Prop :=
  Cut text.toList (words.map String.toList)

/-! ### What is read from a gap and from a run -/

theorem wordsOfChars_cons_of_isBlank {c : Char} (hblank : isBlank c = true) (cs : List Char) :
    wordsOfChars (c :: cs) = wordsOfChars cs := by
  simp only [wordsOfChars, List.foldr_cons, addToWords, hblank, if_true]
  rfl

/-- A gap in front holds no word. -/
theorem wordsOfChars_append_of_blank {gap : List Char} (blank : ∀ c ∈ gap, isBlank c = true)
    (cs : List Char) : wordsOfChars (gap ++ cs) = wordsOfChars cs := by
  induction gap with
  | nil => rfl
  | cons c gap ih =>
    rw [List.forall_mem_cons] at blank
    rw [List.cons_append, wordsOfChars_cons_of_isBlank blank.1, ih blank.2]

/-- A run only makes the first word longer that is read behind it. -/
theorem foldr_addToWords_append {word : List Char} (solid : ∀ c ∈ word, isBlank c = false)
    (cs : List Char) :
    (word ++ cs).foldr addToWords ([], []) =
      (word ++ (cs.foldr addToWords ([], [])).1, (cs.foldr addToWords ([], [])).2) := by
  induction word with
  | nil => rfl
  | cons c word ih =>
    rw [List.forall_mem_cons] at solid
    simp only [List.cons_append, List.foldr_cons, ih solid.2, addToWords, solid.1,
      Bool.false_eq_true, if_false]

/-- No word is begun where a gap begins. -/
theorem foldr_addToWords_fst {cs : List Char} (ended : ∀ c ∈ cs.head?, isBlank c = true) :
    (cs.foldr addToWords ([], [])).1 = [] := by
  cases cs with
  | nil => rfl
  | cons c cs =>
    have hblank : isBlank c = true := ended c rfl
    simp only [List.foldr_cons, addToWords, hblank, if_true]

theorem wordsOfChars_run {word rest : List Char} (nonempty : word ≠ [])
    (solid : ∀ c ∈ word, isBlank c = false) (ended : ∀ c ∈ rest.head?, isBlank c = true) :
    wordsOfChars (word ++ rest) = word :: wordsOfChars rest := by
  simp only [wordsOfChars, foldr_addToWords_append solid, foldr_addToWords_fst ended,
    List.append_nil]
  simp [consWord, nonempty]

/-! ### Cutting -/

theorem Cut.wordsOfChars_eq {cs : List Char} {words : List (List Char)} (hcut : Cut cs words) :
    wordsOfChars cs = words := by
  induction hcut with
  | @blanks gap blank =>
    have hgap := wordsOfChars_append_of_blank blank []
    rwa [List.append_nil] at hgap
  | @run gap word rest words blank nonempty solid ended later ih =>
    rw [List.append_assoc, wordsOfChars_append_of_blank blank,
      wordsOfChars_run nonempty solid ended, ih]

/-- A run without a gap in front. -/
theorem Cut.run_front {word rest : List Char} {words : List (List Char)} (nonempty : word ≠ [])
    (solid : ∀ c ∈ word, isBlank c = false) (ended : ∀ c ∈ rest.head?, isBlank c = true)
    (later : Cut rest words) : Cut (word ++ rest) (word :: words) := by
  have hcut := Cut.run (List.forall_mem_nil _) nonempty solid ended later
  rwa [List.nil_append] at hcut

/-- A blank in front makes a gap longer or begins one. -/
theorem Cut.cons_blank {c : Char} {cs : List Char} {words : List (List Char)}
    (hcut : Cut cs words) (hblank : isBlank c = true) : Cut (c :: cs) words := by
  cases hcut with
  | blanks blank => exact .blanks (List.forall_mem_cons.mpr ⟨hblank, blank⟩)
  | @run gap word rest words blank nonempty solid ended later =>
    have hgap : ∀ d ∈ c :: gap, isBlank d = true := List.forall_mem_cons.mpr ⟨hblank, blank⟩
    exact .run hgap nonempty solid ended later

/-- Another character in front makes the first run longer if it touches it, and else is one. -/
theorem Cut.cons_solid {c : Char} {cs : List Char} {words : List (List Char)}
    (hcut : Cut cs words) (hsolid : isBlank c = false) : ∃ words, Cut (c :: cs) words := by
  have hsingle : ∀ d ∈ [c], isBlank d = false := by
    intro d hd
    rwa [List.mem_singleton.mp hd]
  have halone (hended : ∀ d ∈ cs.head?, isBlank d = true) : Cut (c :: cs) ([c] :: words) :=
    .run_front (List.cons_ne_nil c []) hsingle hended hcut
  cases hcut with
  | blanks blank => exact ⟨_, halone fun d hd => blank d (List.mem_of_head? hd)⟩
  | @run gap word rest words blank nonempty solid ended later =>
    cases gap with
    | nil =>
      have hword : ∀ d ∈ c :: word, isBlank d = false :=
        List.forall_mem_cons.mpr ⟨hsolid, solid⟩
      exact ⟨_, .run_front (List.cons_ne_nil c word) hword ended later⟩
    | cons d gap =>
      refine ⟨_, halone fun e he => ?_⟩
      rw [List.cons_append, List.cons_append, List.head?_cons, Option.mem_some_iff] at he
      exact he ▸ blank d List.mem_cons_self

theorem exists_cut (cs : List Char) : ∃ words, Cut cs words := by
  induction cs with
  | nil => exact ⟨[], .blanks (List.forall_mem_nil _)⟩
  | cons c cs ih =>
    obtain ⟨words, hcut⟩ := ih
    cases h : isBlank c with
    | true => exact ⟨words, hcut.cons_blank h⟩
    | false => exact hcut.cons_solid h

/-- The runs of a cut are the words that are read. -/
theorem cut_iff {cs : List Char} {words : List (List Char)} :
    Cut cs words ↔ wordsOfChars cs = words := by
  refine ⟨Cut.wordsOfChars_eq, fun hwords => ?_⟩
  obtain ⟨runs, hcut⟩ := exists_cut cs
  rwa [← hwords, hcut.wordsOfChars_eq]

/-- Every text has its words, and no others. -/
theorem hasWords_iff {text : String} {tokens : List String} :
    HasWords text tokens ↔ tokens = words text := by
  rw [HasWords, cut_iff, words]
  constructor
  · intro hwords
    rw [hwords, List.map_map]
    simp
  · rintro rfl
    rw [List.map_map]
    simp

/-- A run has a character, and none that is blank. -/
theorem Cut.of_mem {cs word : List Char} {words : List (List Char)} (hcut : Cut cs words)
    (hword : word ∈ words) : word ≠ [] ∧ ∀ c ∈ word, isBlank c = false := by
  induction hcut with
  | blanks => cases hword
  | run _ nonempty solid _ _ ih =>
    rcases List.mem_cons.mp hword with rfl | hlater
    · exact ⟨nonempty, solid⟩
    · exact ih hlater

end TowerOfHanoi.Text
