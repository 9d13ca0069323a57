import TowerOfHanoi.Text.Blank
import TowerOfHanoi.Text.Quoted

/-!
# Pegs

A peg is known by its label, a single character that is neither blank nor a control. A puzzle
has three pegs with different labels, told apart by their roles: the tower starts on the source,
ends on the destination, and uses the auxiliary peg on the way.

## Main definitions

* `Peg`: a label that can be shown.
* `Peg.ofChar`, `Peg.ofToken`: the peg with a given label, read from a character or from a token.
* `Pegs`: the three pegs by role, with `Pegs.Distinct`.
* `Pegs.ofRoles`: the three pegs, refused when a label is used more than once.
-/

namespace TowerOfHanoi

/-- Whether a character can label a peg: it is neither blank nor a control. -/
def Peg.isLabel (c : Char) : Bool :=
  !Text.isBlank c && !Text.isControl c

/-- A peg, known by its label. -/
structure Peg where
  /-- The character that names the peg. -/
  label : Char
  /-- The label is neither blank nor a control. -/
  isLabel_label : Peg.isLabel label = true := by decide
  deriving DecidableEq

namespace Peg

@[ext] theorem ext {p q : Peg} (h : p.label = q.label) : p = q := by
  cases p; cases q; cases h; rfl

/-- The label as text. -/
def text (peg : Peg) : String :=
  peg.label.toString

end Peg

/-- Why pegs are refused. -/
inductive PegError
  /-- A token with no character or with more than one. -/
  | notSingleChar (token : String)
  /-- A character that is blank or a control. -/
  | unprintable (label : Char)
  /-- A label that two roles share. -/
  | duplicate (peg : Peg)
  deriving DecidableEq

/-- The message for a refused peg. -/
def PegError.message : PegError → String
  | notSingleChar token =>
    "Peg label must be a single character, got " ++ Text.quoteString token
  | unprintable label =>
    "Peg label " ++ Text.quoteChar label ++ " is not a printable character"
  | duplicate peg =>
    "Peg labels must be distinct, '" ++ peg.text ++ "' is used more than once"

namespace Peg

/-- The peg with the given label. -/
def ofChar (c : Char) : Except PegError Peg :=
  if h : isLabel c = true then .ok ⟨c, h⟩ else .error (.unprintable c)

/-- The peg that a token names: the token is its label and nothing else. -/
def ofToken (token : String) : Except PegError Peg :=
  match token.toList with
  | [c] => ofChar c
  | _ => .error (.notSingleChar token)

@[simp] theorem ofChar_label (p : Peg) : ofChar p.label = .ok p := by
  simp [ofChar, p.isLabel_label]

theorem ofChar_eq_ok_iff {c : Char} {p : Peg} : ofChar c = .ok p ↔ p.label = c := by
  constructor
  · intro h
    by_cases hc : isLabel c = true
    · rw [ofChar, dif_pos hc] at h
      cases h; rfl
    · rw [ofChar, dif_neg hc] at h
      cases h
  · rintro rfl
    exact ofChar_label p

theorem ofToken_toString (c : Char) : ofToken c.toString = ofChar c := by
  rw [ofToken, Char.toString_eq_singleton, String.toList_singleton]

@[simp] theorem ofToken_text (peg : Peg) : ofToken peg.text = .ok peg := by
  rw [text, ofToken_toString, ofChar_label]

end Peg

/-- The three pegs of a puzzle, by role. -/
structure Pegs where
  /-- Where the tower starts. -/
  source : Peg
  /-- Where the tower ends. -/
  destination : Peg
  /-- The peg that is left to move disks out of the way. -/
  auxiliary : Peg
  deriving DecidableEq

namespace Pegs

/-- No two roles share a label. -/
def Distinct (pegs : Pegs) : Prop :=
  pegs.source ≠ pegs.destination ∧ pegs.source ≠ pegs.auxiliary ∧
    pegs.destination ≠ pegs.auxiliary

instance (pegs : Pegs) : Decidable pegs.Distinct :=
  inferInstanceAs (Decidable (_ ∧ _ ∧ _))

/-- The pegs with the given roles. A shared label is refused: that of the source when it is
shared, and otherwise that of the destination. -/
def ofRoles (source destination auxiliary : Peg) : Except PegError Pegs :=
  if source = destination ∨ source = auxiliary then .error (.duplicate source)
  else if destination = auxiliary then .error (.duplicate destination)
  else .ok ⟨source, destination, auxiliary⟩

/-- The pegs of a puzzle that names none: from `A` to `C` by way of `B`. -/
def standard : Pegs where
  source := ⟨'A', by decide⟩
  destination := ⟨'C', by decide⟩
  auxiliary := ⟨'B', by decide⟩

instance : Inhabited Pegs := ⟨standard⟩

theorem distinct_of_ofRoles {s d a : Peg} {pegs : Pegs} (h : ofRoles s d a = .ok pegs) :
    pegs.Distinct := by
  unfold ofRoles at h
  split at h
  · cases h
  · split at h
    · cases h
    · cases h
      simp_all [Distinct]

theorem ofRoles_eq_ok {pegs : Pegs} (h : pegs.Distinct) :
    ofRoles pegs.source pegs.destination pegs.auxiliary = .ok pegs := by
  obtain ⟨hsd, hsa, hda⟩ := h
  simp [ofRoles, hsd, hsa, hda]

end Pegs

end TowerOfHanoi
