import Mathlib.Data.List.Basic
import TowerOfHanoi.Proofs.Text.Words
import TowerOfHanoi.PuzzleText

/-!
# What the words of a text say

A text that describes a puzzle is judged by its words alone. This file lists what they can come
to: a puzzle without labels, a puzzle with three of them, or one of six kinds of fault. A rule for
a fault says that nothing is wrong that is looked at earlier, so that of several faults in one
text the rules name the first. Exactly one result follows from any words by these rules, and it is
the result of parsing.

## Main definitions

* `Peg.Refused`: why a word cannot label a peg.
* `Puzzle.Reading`: what words come to.
* `Puzzle.DescribedBy`: which words describe a puzzle.

## Main results

* `Puzzle.Reading.exists_of_hasWords`: the words of a text come to something.
* `Puzzle.Reading.parse_eq`: what they come to is the result of parsing it.
* `parse_reports_first_fault`: the result of parsing a text, for every text.
-/

namespace TowerOfHanoi

/-! ### Labels -/

/-- Why a word cannot label a peg. No blank is part of a word, so a single character is only
refused as a control. -/
inductive Peg.Refused : String → PegError → Prop
  /-- There is more than one character. -/
  | long {token : String} (hlength : 1 < token.length) : Refused token (.notSingleChar token)
  /-- The only character is a control. -/
  | control {c : Char} (hcontrol : Text.isControl c = true) :
      Refused c.toString (.unprintable c)

namespace Peg

@[simp] theorem isBlank_label (peg : Peg) : Text.isBlank peg.label = false := by
  have hlabel := peg.isLabel_label
  rw [isLabel, Bool.and_eq_true, Bool.not_eq_true'] at hlabel
  exact hlabel.1

@[simp] theorem isControl_label (peg : Peg) : Text.isControl peg.label = false := by
  have hlabel := peg.isLabel_label
  rw [isLabel, Bool.and_eq_true, Bool.not_eq_true', Bool.not_eq_true'] at hlabel
  exact hlabel.2

theorem Refused.ofToken_eq {token : String} {fault : PegError} (hrefused : Refused token fault) :
    ofToken token = .error fault := by
  cases hrefused with
  | long hlength =>
    unfold ofToken
    split
    · rename_i c hsingle
      rw [← String.length_toList, hsingle] at hlength
      exact absurd hlength (Nat.lt_irrefl 1)
    · rfl
  | control hcontrol =>
    rw [ofToken_toString]
    simp [ofChar, isLabel, hcontrol]

/-- A word either is the label of a peg or is refused. -/
theorem text_or_refused {token : String} (nonempty : token.toList ≠ [])
    (solid : ∀ c ∈ token.toList, Text.isBlank c = false) :
    (∃ peg : Peg, token = peg.text) ∨ ∃ fault, Refused token fault := by
  obtain ⟨c, cs, hchars⟩ := List.exists_cons_of_ne_nil nonempty
  rw [hchars, List.forall_mem_cons] at solid
  cases cs with
  | nil =>
    have htoken : token = c.toString := by
      rw [← String.ofList_toList (s := token), hchars]
      rfl
    cases hcontrol : Text.isControl c with
    | true => exact .inr ⟨.unprintable c, htoken ▸ .control hcontrol⟩
    | false => exact .inl ⟨⟨c, by simp [isLabel, solid.1, hcontrol]⟩, htoken⟩
  | cons d ds =>
    refine .inr ⟨.notSingleChar token, .long ?_⟩
    rw [← String.length_toList, hchars, List.length_cons, List.length_cons]
    omega

end Peg

/-! ### Results -/

/-- What the words of a text come to. Each rule for a fault asks that all goes well before it: the
number of disks is read first, the labels are counted next, each of them is looked at in turn, and
they are compared last. -/
inductive Puzzle.Reading : List String → Except InputError Puzzle → Prop
  /-- There is no word. -/
  | noWord : Reading [] (.error .missingDisks)
  /-- The first word is refused as the number of disks. -/
  | disks {token : String} {labels : List String} {fault : InputError}
      (hdisks : parseDisks token = .error fault) : Reading (token :: labels) (.error fault)
  /-- There are labels, but not three, whatever they are. -/
  | count {token : String} {labels : List String} {disks : UInt32}
      (hdisks : parseDisks token = .ok disks) (hsome : labels.length ≠ 0)
      (hthree : labels.length ≠ 3) : Reading (token :: labels) (.error (.pegCount labels.length))
  /-- A label is refused, and none before it. -/
  | label {token bad : String} {front : List Peg} {rest : List String} {disks : UInt32}
      {fault : PegError} (hdisks : parseDisks token = .ok disks)
      (hcount : (front.map Peg.text ++ bad :: rest).length = 3) (hbad : Peg.Refused bad fault) :
      Reading (token :: (front.map Peg.text ++ bad :: rest)) (.error (.peg fault))
  /-- The label of the source is used again. -/
  | source {token : String} {source destination auxiliary : Peg} {disks : UInt32}
      (hdisks : parseDisks token = .ok disks)
      (hshared : source = destination ∨ source = auxiliary) :
      Reading [token, source.text, destination.text, auxiliary.text]
        (.error (.peg (.duplicate source)))
  /-- The label of the destination is used again, but not that of the source. -/
  | destination {token : String} {source destination auxiliary : Peg} {disks : UInt32}
      (hdisks : parseDisks token = .ok disks) (hsource : source ≠ destination)
      (hspare : source ≠ auxiliary) (hshared : destination = auxiliary) :
      Reading [token, source.text, destination.text, auxiliary.text]
        (.error (.peg (.duplicate destination)))
  /-- A number of disks alone. -/
  | standard {token : String} {disks : UInt32} (hdisks : parseDisks token = .ok disks) :
      Reading [token] (.ok ⟨disks, .standard⟩)
  /-- A number of disks and three different labels. -/
  | pegs {token : String} {pegs : Pegs} {disks : UInt32} (hdisks : parseDisks token = .ok disks)
      (hdistinct : pegs.Distinct) :
      Reading [token, pegs.source.text, pegs.destination.text, pegs.auxiliary.text]
        (.ok ⟨disks, pegs⟩)

/-- Words describe a puzzle: the first is its number of disks, and the others are no labels at all,
or three different characters that label its pegs and are no controls. -/
def Puzzle.DescribedBy (puzzle : Puzzle) (tokens : List String) : Prop :=
  ∃ token labels, tokens = token :: labels ∧ parseDisks token = .ok puzzle.disks ∧
    (labels = [] ∧ puzzle.pegs = .standard ∨
      ∃ s d a : Char, labels = [s.toString, d.toString, a.toString] ∧
        Text.isControl s = false ∧ Text.isControl d = false ∧ Text.isControl a = false ∧
        s ≠ d ∧ s ≠ a ∧ d ≠ a ∧ puzzle.pegs.source.label = s ∧
        puzzle.pegs.destination.label = d ∧ puzzle.pegs.auxiliary.label = a)

namespace Pegs

/-- Three labels name their pegs one after the other. -/
theorem ofLabels_three (source destination auxiliary : String) :
    ofLabels [source, destination, auxiliary] =
      Except.mapError .peg (do
        ofRoles (← Peg.ofToken source) (← Peg.ofToken destination) (← Peg.ofToken auxiliary)) :=
  rfl

theorem ofLabels_text (source destination auxiliary : Peg) :
    ofLabels [source.text, destination.text, auxiliary.text] =
      Except.mapError .peg (ofRoles source destination auxiliary) := by
  rw [ofLabels_three, Peg.ofToken_text, Peg.ofToken_text, Peg.ofToken_text]
  rfl

theorem ofLabels_of_count {labels : List String} (hsome : labels.length ≠ 0)
    (hthree : labels.length ≠ 3) : ofLabels labels = .error (.pegCount labels.length) := by
  unfold ofLabels
  split
  · exact absurd rfl hsome
  · exact absurd rfl hthree
  · rfl

/-- The first label that is refused is reported, whatever follows it. -/
theorem ofLabels_of_refused {front : List Peg} {bad : String} {rest : List String}
    {fault : PegError} (hcount : (front.map Peg.text ++ bad :: rest).length = 3)
    (hbad : Peg.Refused bad fault) :
    ofLabels (front.map Peg.text ++ bad :: rest) = .error (.peg fault) := by
  have hrefused := hbad.ofToken_eq
  simp only [List.length_append, List.length_map, List.length_cons] at hcount
  rcases front with _ | ⟨source, _ | ⟨destination, _ | ⟨_, _⟩⟩⟩
  · obtain ⟨destination, auxiliary, rfl⟩ := List.length_eq_two.mp
      (show rest.length = 2 by simp only [List.length_nil] at hcount; omega)
    rw [List.map_nil, List.nil_append, ofLabels_three, hrefused]
    rfl
  · obtain ⟨auxiliary, rfl⟩ := List.length_eq_one_iff.mp
      (show rest.length = 1 by simp only [List.length_cons, List.length_nil] at hcount; omega)
    rw [List.map_singleton, List.singleton_append, ofLabels_three, Peg.ofToken_text, hrefused]
    rfl
  · obtain rfl := List.length_eq_zero_iff.mp
      (show rest.length = 0 by simp only [List.length_cons, List.length_nil] at hcount; omega)
    rw [List.map_cons, List.map_singleton, List.cons_append, List.singleton_append,
      ofLabels_three, Peg.ofToken_text, Peg.ofToken_text, hrefused]
    rfl
  · simp only [List.length_cons] at hcount
    omega

end Pegs

namespace Puzzle

section Parse

variable {text token : String} {labels : List String}

theorem parse_of_words_eq_nil (hwords : Text.words text = []) :
    parse text = .error .missingDisks := by
  rw [parse_eq, hwords]

theorem parse_of_disks_eq_error (hwords : Text.words text = token :: labels) {fault : InputError}
    (hdisks : parseDisks token = .error fault) : parse text = .error fault := by
  rw [parse_eq, hwords]
  simp only [hdisks]
  rfl

theorem parse_of_disks_eq_ok (hwords : Text.words text = token :: labels) {disks : UInt32}
    (hdisks : parseDisks token = .ok disks) :
    parse text = (Pegs.ofLabels labels).map (⟨disks, ·⟩) := by
  rw [parse_eq, hwords]
  simp only [hdisks]
  cases Pegs.ofLabels labels <;> rfl

end Parse

namespace Reading

variable {tokens : List String} {result : Except InputError Puzzle}

/-- What the words of a text come to is the result of parsing it. -/
theorem parse_eq {text : String} (hwords : Text.words text = tokens)
    (hreading : Reading tokens result) : parse text = result := by
  cases hreading with
  | noWord => exact parse_of_words_eq_nil hwords
  | disks hdisks => exact parse_of_disks_eq_error hwords hdisks
  | count hdisks hsome hthree =>
    rw [parse_of_disks_eq_ok hwords hdisks, Pegs.ofLabels_of_count hsome hthree]
    rfl
  | label hdisks hcount hbad =>
    rw [parse_of_disks_eq_ok hwords hdisks, Pegs.ofLabels_of_refused hcount hbad]
    rfl
  | source hdisks hshared =>
    rw [parse_of_disks_eq_ok hwords hdisks, Pegs.ofLabels_text, Pegs.ofRoles, if_pos hshared]
    rfl
  | destination hdisks hsource hspare hshared =>
    rw [parse_of_disks_eq_ok hwords hdisks, Pegs.ofLabels_text, Pegs.ofRoles,
      if_neg (not_or.mpr ⟨hsource, hspare⟩), if_pos hshared]
    rfl
  | standard hdisks =>
    rw [parse_of_disks_eq_ok hwords hdisks]
    rfl
  | pegs hdisks hdistinct =>
    rw [parse_of_disks_eq_ok hwords hdisks, Pegs.ofLabels_text, Pegs.ofRoles_eq_ok hdistinct]
    rfl

/-- Three labels that are words come to a puzzle or to the first fault among them. -/
theorem exists_of_three {token source destination auxiliary : String} {disks : UInt32}
    (hdisks : parseDisks token = .ok disks)
    (hwords : ∀ label ∈ [source, destination, auxiliary],
      (∃ peg : Peg, label = peg.text) ∨ ∃ fault, Peg.Refused label fault) :
    ∃ result, Reading [token, source, destination, auxiliary] result := by
  simp only [List.forall_mem_cons, List.not_mem_nil, false_implies, implies_true, and_true]
    at hwords
  obtain ⟨⟨s, rfl⟩ | ⟨fault, hs⟩, hd, ha⟩ := hwords
  · obtain ⟨d, rfl⟩ | ⟨fault, hd⟩ := hd
    · obtain ⟨a, rfl⟩ | ⟨fault, ha⟩ := ha
      · by_cases hsource : s = d ∨ s = a
        · exact ⟨_, .source hdisks hsource⟩
        · obtain ⟨hsd, hsa⟩ := not_or.mp hsource
          by_cases hda : d = a
          · exact ⟨_, .destination hdisks hsd hsa hda⟩
          · exact ⟨_, @pegs token ⟨s, d, a⟩ disks hdisks ⟨hsd, hsa, hda⟩⟩
      · exact ⟨_, @label token auxiliary [s, d] [] disks fault hdisks rfl ha⟩
    · exact ⟨_, @label token destination [s] [auxiliary] disks fault hdisks rfl hd⟩
  · exact ⟨_, @label token source [] [destination, auxiliary] disks fault hdisks rfl hs⟩

/-- The words of a text come to something. -/
theorem exists_of_hasWords {text : String} (hwords : Text.HasWords text tokens) :
    ∃ result, Reading tokens result := by
  have hlabel : ∀ label ∈ tokens,
      (∃ peg : Peg, label = peg.text) ∨ ∃ fault, Peg.Refused label fault := by
    intro label hmem
    obtain ⟨nonempty, solid⟩ := hwords.of_mem (List.mem_map_of_mem hmem)
    exact Peg.text_or_refused nonempty solid
  match tokens, hlabel with
  | [], _ => exact ⟨_, .noWord⟩
  | token :: labels, hlabel =>
    cases hdisks : parseDisks token with
    | error fault => exact ⟨_, .disks hdisks⟩
    | ok disks =>
      match labels, hlabel with
      | [], _ => exact ⟨_, .standard hdisks⟩
      | [_, _, _], hlabel =>
        exact exists_of_three hdisks (List.forall_mem_cons.mp hlabel).2
      | [_], _ => exact ⟨_, .count hdisks (by simp) (by simp)⟩
      | [_, _], _ => exact ⟨_, .count hdisks (by simp) (by simp)⟩
      | _ :: _ :: _ :: _ :: _, _ => exact ⟨_, .count hdisks (by simp) (by simp)⟩

/-- Words come to a puzzle if they describe it. -/
theorem ok_iff {puzzle : Puzzle} : Reading tokens (.ok puzzle) ↔ puzzle.DescribedBy tokens := by
  constructor
  · intro hreading
    cases hreading with
    | standard hdisks => exact ⟨_, [], rfl, hdisks, .inl ⟨rfl, rfl⟩⟩
    | @pegs token pegs disks hdisks hdistinct =>
      obtain ⟨hsd, hsa, hda⟩ := hdistinct
      exact ⟨_, _, rfl, hdisks, .inr ⟨_, _, _, rfl, Peg.isControl_label _, Peg.isControl_label _,
        Peg.isControl_label _, mt Peg.ext hsd, mt Peg.ext hsa, mt Peg.ext hda, rfl, rfl, rfl⟩⟩
  · rintro ⟨token, labels, rfl, hdisks, ⟨rfl, hpegs⟩ | ⟨_, _, _, rfl, -, -, -, hsd, hsa, hda, rfl,
      rfl, rfl⟩⟩
    · obtain ⟨disks, pegs⟩ := puzzle
      cases hpegs
      exact .standard hdisks
    · exact .pegs hdisks ⟨fun h => hsd (congrArg Peg.label h), fun h => hsa (congrArg Peg.label h),
        fun h => hda (congrArg Peg.label h)⟩

end Reading

end Puzzle

/-- **Parsing reports the first fault.** Every text has its words and no others, and parsing it
comes to the one result that the rules of `Puzzle.Reading` give for them. In particular a text is
accepted as a puzzle exactly if its words describe that puzzle. -/
theorem parse_reports_first_fault (text : String) :
    ∃ tokens, (∀ others, Text.HasWords text others ↔ others = tokens) ∧
      (∀ result, Puzzle.parse text = result ↔ Puzzle.Reading tokens result) ∧
      ∀ puzzle, Puzzle.parse text = .ok puzzle ↔ puzzle.DescribedBy tokens := by
  have hwords : Text.HasWords text (Text.words text) := Text.hasWords_iff.mpr rfl
  obtain ⟨result, hreading⟩ := Puzzle.Reading.exists_of_hasWords hwords
  have hparse : Puzzle.parse text = result := hreading.parse_eq rfl
  have hresult : ∀ result, Puzzle.parse text = result ↔
      Puzzle.Reading (Text.words text) result := by
    intro other
    constructor
    · rintro rfl
      rwa [hparse]
    · exact Puzzle.Reading.parse_eq rfl
  exact ⟨Text.words text, fun others => Text.hasWords_iff, hresult,
    fun puzzle => (hresult (.ok puzzle)).trans Puzzle.Reading.ok_iff⟩

/-- Of a refused label and a label used twice, the refused one is reported, and a wrong number of
labels before either. -/
example :
    Puzzle.parse "3 A A \x07" = .error (.peg (.unprintable '\x07')) ∧
    Puzzle.parse "3\u2003A\u2003A\u2003AB\u2003B" = .error (.pegCount 4) := by
  decide +kernel

end TowerOfHanoi
