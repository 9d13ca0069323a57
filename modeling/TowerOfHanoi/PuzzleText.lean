import TowerOfHanoi.Notice
import TowerOfHanoi.Stream.Delivery

/-!
# Puzzles as text

A puzzle is written as words: the number of disks and then, if at all, the labels of the source,
the destination and the auxiliary peg. Reading reports the first fault in a fixed order: no word
at all, the number of disks, the number of labels, each label in turn, labels used twice. Behind all
of these checks an observer is told of the puzzle.

## Main definitions

* `InputError`: why a text is refused, with its message.
* `parseDisks`: the number of disks that a token denotes.
* `Puzzle.parseNoting`, `Puzzle.parse`: the puzzle that a text denotes, with an observer or without.
* `Puzzle.readFromNoting`, `Puzzle.readFrom`: the same for the text of a reader.
-/

namespace TowerOfHanoi

/-- Why a puzzle cannot be read. -/
inductive InputError
  /-- There is no word at all. -/
  | missingDisks
  /-- The token for the number of disks is not a whole number. -/
  | invalidDisks (token : String)
  /-- The number of disks is below zero. -/
  | negativeDisks (numeral : String)
  /-- The number of disks is above the limit. -/
  | tooManyDisks (numeral : String) (max : UInt32)
  /-- There are labels, but not three of them. -/
  | pegCount (count : Nat)
  /-- A label is refused. -/
  | peg (error : PegError)
  /-- The text could not be read. -/
  | stream (fault : Fault)
  deriving DecidableEq

/-- The message for a puzzle that cannot be read. -/
def InputError.message : InputError → String
  | missingDisks => "No disk count given"
  | invalidDisks token => "Disk count must be a whole number, got " ++ Text.quoteString token
  | negativeDisks numeral => "Disk count cannot be negative, got " ++ numeral
  | tooManyDisks numeral max =>
    "Disk count " ++ numeral ++ " exceeds the maximum of " ++ toString max.toNat
  | pegCount count =>
    "Expected either no peg labels or exactly three, got " ++ toString count
  | peg error => error.message
  | stream fault => "Failed to read input: " ++ fault.text

/-! ### The number of disks -/

/-- Why the digits of a numeral do not give a number. -/
inductive DigitsError
  /-- There is no digit, or something that is not a digit. -/
  | notDigits
  /-- The number so far is above the bound. -/
  | aboveBound
  deriving DecidableEq

/-- The value of a decimal digit. -/
def digitValue (c : Char) : Option Nat :=
  if '0' ≤ c ∧ c ≤ '9' then some (c.toNat - '0'.toNat) else none

theorem digitValue_of_isDigit {c : Char} (hdigit : c.isDigit = true) :
    digitValue c = some (c.toNat - '0'.toNat) := by
  rw [Char.isDigit, Bool.and_eq_true, decide_eq_true_eq, decide_eq_true_eq] at hdigit
  exact if_pos hdigit

theorem digitValue_of_not_isDigit {c : Char} (hdigit : c.isDigit = false) :
    digitValue c = none := by
  rw [Char.isDigit, Bool.and_eq_false_iff, decide_eq_false_iff_not,
    decide_eq_false_iff_not] at hdigit
  exact if_neg fun hrange => hdigit.elim (absurd hrange.1) (absurd hrange.2)

/-- Reads further digits of a number, left to right, and stops at the first character that is not
a digit or that takes the number above the bound. -/
def readDigits (bound : Nat) : Nat → List Char → Except DigitsError Nat
  | value, [] => .ok value
  | value, c :: cs =>
    match digitValue c with
    | none => .error .notDigits
    | some digit =>
      if 10 * value + digit ≤ bound then readDigits bound (10 * value + digit) cs
      else .error .aboveBound

/-- Reads a number of at least one digit. -/
def readNatural (bound : Nat) (cs : List Char) : Except DigitsError Nat :=
  if cs.isEmpty then .error .notDigits else readDigits bound 0 cs

/-- The greatest signed number of 64 bits. -/
def maxInt64 : Nat := 0x7fffffffffffffff

/-- A number with an optional sign in front, read as a signed number of 64 bits: whether it is
negative, and its digits' value up to the bound of that sign. -/
def readSigned : List Char → Bool × Except DigitsError Nat
  | '-' :: cs => (true, readNatural (maxInt64 + 1) cs)
  | '+' :: cs => (false, readNatural maxInt64 cs)
  | cs => (false, readNatural maxInt64 cs)

/-- The number of disks that a token denotes: a whole number, with blanks around it ignored, from
zero to the limit. -/
def parseDisks (token : String) : Except InputError UInt32 :=
  let numeral := Text.trim token
  match readSigned numeral.toList with
  | (_, .error .notDigits) => .error (.invalidDisks token)
  | (true, .error .aboveBound) => .error (.negativeDisks numeral)
  | (false, .error .aboveBound) => .error (.tooManyDisks numeral Puzzle.maxDisks)
  | (negative, .ok value) =>
    if negative && value != 0 then .error (.negativeDisks numeral)
    else if value ≤ Puzzle.maxDisks.toNat then .ok (UInt32.ofNat value)
    else .error (.tooManyDisks numeral Puzzle.maxDisks)

/-! ### The whole puzzle -/

/-- The pegs that the labels after the number of disks name: the standard ones when there are no
labels. -/
def Pegs.ofLabels : List String → Except InputError Pegs
  | [] => .ok Pegs.standard
  | [source, destination, auxiliary] =>
    Except.mapError .peg do
      Pegs.ofRoles (← Peg.ofToken source) (← Peg.ofToken destination) (← Peg.ofToken auxiliary)
  | labels => .error (.pegCount labels.length)

namespace Puzzle

section Noting

variable {m : Type → Type} [Monad m] (observe : Notice → m Unit)

/-- The puzzle that a text denotes, told to an observer. -/
def parseNoting (text : String) : m (Except InputError Puzzle) :=
  ExceptT.run do
    match Text.words text with
    | [] => throw .missingDisks
    | disks :: labels =>
      let disks ← parseDisks disks
      let pegs ← Pegs.ofLabels labels
      ExceptT.lift (observe (.parsed ⟨disks, pegs⟩))
      return ⟨disks, pegs⟩

/-- The puzzle that the text of a reader denotes, told to an observer. -/
def readFromNoting (reader : List Delivery) : m (Except InputError Puzzle) :=
  match readText reader with
  | .ok text => parseNoting observe text
  | .error fault => return .error (.stream fault)

end Noting

/-- The puzzle that a text denotes. -/
def parse (text : String) : Except InputError Puzzle :=
  Id.run (parseNoting (fun _ => pure ()) text)

/-- The puzzle that the text of a reader denotes. -/
def readFrom (reader : List Delivery) : Except InputError Puzzle :=
  Id.run (readFromNoting (fun _ => pure ()) reader)

theorem parse_eq (text : String) :
    parse text = match Text.words text with
      | [] => .error .missingDisks
      | disks :: labels => (parseDisks disks).bind fun disks =>
          (Pegs.ofLabels labels).bind fun pegs => .ok ⟨disks, pegs⟩ := by
  unfold parse parseNoting
  rcases Text.words text with _ | ⟨disks, labels⟩
  · rfl
  · simp only
    generalize parseDisks disks = counted, Pegs.ofLabels labels = labelled
    rcases counted with error | disks
    · rfl
    · cases labelled <;> rfl

theorem readFrom_eq (reader : List Delivery) :
    readFrom reader = ((readText reader).mapError .stream).bind parse := by
  unfold readFrom readFromNoting
  cases readText reader <;> rfl

end Puzzle

end TowerOfHanoi
