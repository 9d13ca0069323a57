import TowerOfHanoi.Decimal.Shortest
import TowerOfHanoi.Json.Draft
import TowerOfHanoi.Json.Value
import TowerOfHanoi.Move

/-!
# Pegs, moves and puzzles as JSON

A peg is a string of one character. A move, the three pegs and a puzzle are records, written with
their fields in order and read with the fields in any order, or as a list of the fields' values.
Fields that nobody knows are passed over. Reading reports the first problem from left to right,
be it a flaw of the text or a value of the wrong kind; that pegs share a label, or that a field
is missing, shows at the end of their record.

## Main definitions

* `Json.DecodeError`: what is wrong with a value, with its message.
* `Json.Problem`: a flaw of the text or a wrong value.
* `Peg.toJson`, `Move.toJson`, `Pegs.toJson`, `Puzzle.toJson`.
* `Peg.ofJson`, `Move.ofJson`, `Pegs.ofJson`, `Puzzle.ofJson`: read from text.
-/

namespace TowerOfHanoi

namespace Json

/-- A value as it appears in a message. -/
inductive Found
  | null
  | bool (value : Bool)
  | integer (value : Int)
  | real (value : Float)
  | string (value : String)
  | sequence
  | map

/-- How a number with a fraction or an exponent appears in a message. -/
def realLayout : Decimal.Layout where
  minInPlace := -5
  maxInPlace := 15
  mark := "e"
  plus := "+"

/-- The text for a value in a message. -/
def Found.text : Found → String
  | null => "null"
  | bool value => "boolean `" ++ boolText value ++ "`"
  | integer value => "integer `" ++ toString value ++ "`"
  | real value => "floating point `" ++ Decimal.render realLayout value ++ "`"
  | string value => "string " ++ Text.quoteString value
  | sequence => "sequence"
  | map => "map"

/-- What is wrong with a value. -/
inductive DecodeError
  /-- A value of another kind than the one expected. -/
  | wrongType (found : Found) (expected : String)
  /-- A value of the right kind, but not one of those expected. -/
  | wrongValue (found : Found) (expected : String)
  /-- A list that ends before all the fields are there. -/
  | wrongLength (length : Nat) (expected : String)
  /-- A record without the field. -/
  | missingField (name : String)
  /-- A record with the field more than once. -/
  | duplicateField (name : String)
  /-- Pegs that are refused. -/
  | peg (error : PegError)

/-- The message for a wrong value. -/
def DecodeError.message : DecodeError → String
  | wrongType found expected => "invalid type: " ++ found.text ++ ", expected " ++ expected
  | wrongValue found expected => "invalid value: " ++ found.text ++ ", expected " ++ expected
  | wrongLength length expected =>
    "invalid length " ++ toString length ++ ", expected " ++ expected
  | missingField name => "missing field `" ++ name ++ "`"
  | duplicateField name => "duplicate field `" ++ name ++ "`"
  | peg error => error.message

/-- Why a text is not read as a value. -/
inductive Problem
  /-- The text has a flaw. -/
  | flaw (flaw : Flaw)
  /-- A value is wrong. -/
  | wrong (error : DecodeError)

/-- A way to read a value from its draft. -/
abbrev Decoder (α : Type) := Draft → Except Problem α

/-- A step that can only meet flaws of the text. -/
def orFlaw {α : Type} (step : Except Flaw α) : Except Problem α :=
  step.mapError .flaw

/-- A wrong value. -/
def wrong {α : Type} (error : DecodeError) : Except Problem α :=
  .error (.wrong error)

/-- The number as it appears in a message. -/
def Number.found : Number → Found
  | integer value => .integer value
  | real value => .real value

/-- Refuses a value of another kind than the one expected. A leaf is read for the message; a list
or a record is not looked into. -/
def mismatch {α : Type} (expected : String) : Decoder α
  | .null => wrong (.wrongType .null expected)
  | .bool value => wrong (.wrongType (.bool value) expected)
  | .number leaf => do wrong (.wrongType (← orFlaw leaf.value).found expected)
  | .string leaf => do wrong (.wrongType (.string (← orFlaw leaf.value)) expected)
  | .array .. => wrong (.wrongType .sequence expected)
  | .object .. => wrong (.wrongType .map expected)
  | .broken flaw => .error (.flaw flaw)

/-! ### Records -/

/-- A field that is looked for: its name, and what its value must pass. -/
structure Field where
  /-- The name. -/
  name : String
  /-- Reads the value and reports what is wrong with it. -/
  check : Decoder Unit

/-- The field whose value the decoder can read. -/
def Field.of {α : Type} (name : String) (decoder : Decoder α) : Field :=
  ⟨name, fun draft => (decoder draft).map fun _ => ()⟩

/-- Reads the items of a list as the values of fields, in the order of the fields. An item more
than there are fields is malformed. -/
def readFieldItems (expected : String) (ending : Except Flaw Unit) :
    (position : Nat) → List Field → List Draft → Except Problem (List (String × Draft))
  | _, [], [] => do
    orFlaw ending
    return []
  | _, [], _ :: _ => .error (.flaw .malformed)
  | position, _ :: _, [] => do
    orFlaw ending
    wrong (.wrongLength position expected)
  | position, field :: fields, item :: items => do
    field.check item
    return (field.name, item) :: (← readFieldItems expected ending (position + 1) fields items)

/-- Reads the members of a record, given the names seen before, and keeps those that are looked
for. -/
def readFieldMembers (fields : List Field) (ending : Except Flaw Unit) :
    (seen : List String) → List (Leaf String × Draft) → Except Problem (List (String × Draft))
  | _, [] => do
    orFlaw ending
    return []
  | seen, (key, value) :: members => do
    let name ← orFlaw key.value
    match fields.find? (·.name = name) with
    | some field =>
      if name ∈ seen then wrong (.duplicateField name)
      else
        field.check value
        return (name, value) :: (← readFieldMembers fields ending (name :: seen) members)
    | none =>
      orFlaw value.pass
      readFieldMembers fields ending seen members

/-- Reads the values of fields from a record or from a list. -/
def readFields (name : String) (fields : List Field) (draft : Draft) :
    Except Problem (List (String × Draft)) :=
  match draft with
  | .array items ending =>
    readFieldItems ("struct " ++ name ++ " with " ++ toString fields.length ++ " elements") ending
      0 fields items
  | .object members ending => readFieldMembers fields ending [] members
  | draft => mismatch ("struct " ++ name) draft

/-- The value of a field that has been read. -/
def fieldValue {α : Type} (values : List (String × Draft)) (name : String) (decoder : Decoder α) :
    Except Problem α :=
  match values.lookup name with
  | some draft => decoder draft
  | none => wrong (.missingField name)

/-- Reads a whole text: nothing but spaces may stand behind the value. -/
def decodeText {α : Type} (decoder : Decoder α) (text : String) : Except Problem α := do
  let (draft, rest) := Draft.ofText text
  let value ← decoder draft
  orFlaw rest
  return value

end Json

open Json

/-- Refuses pegs inside a document. -/
def PegError.orWrong {α : Type} (result : Except PegError α) : Except Problem α :=
  result.mapError fun error => .wrong (.peg error)

namespace Peg

/-- A peg is written as its label. -/
def toJson (peg : Peg) : Json :=
  .string peg.text

/-- Reads a peg from a string of one character. -/
def decode : Decoder Peg
  | .string leaf => do
    let text ← orFlaw leaf.value
    match text.toList with
    | [c] => PegError.orWrong (ofChar c)
    | _ => wrong (.wrongValue (.string text) "a character")
  | draft => mismatch "a character" draft

/-- Reads a peg from JSON text. -/
def ofJson (text : String) : Except Problem Peg :=
  decodeText decode text

end Peg

namespace Move

/-- A move is written with the labels of its two pegs. -/
def toJson (move : Move) : Json :=
  .object [("from", move.source.toJson), ("to", move.target.toJson)]

/-- Reads a move. -/
def decode : Decoder Move := fun draft => do
  let values ← readFields "Move" [.of "from" Peg.decode, .of "to" Peg.decode] draft
  return ⟨← fieldValue values "from" Peg.decode, ← fieldValue values "to" Peg.decode⟩

/-- Reads a move from JSON text. -/
def ofJson (text : String) : Except Problem Move :=
  decodeText decode text

end Move

namespace Pegs

/-- The three pegs are written by role. -/
def toJson (pegs : Pegs) : Json :=
  .object [("source", pegs.source.toJson), ("destination", pegs.destination.toJson),
    ("auxiliary", pegs.auxiliary.toJson)]

/-- Reads the three pegs, which must have different labels. -/
def decode : Decoder Pegs := fun draft => do
  let values ← readFields "RawPegs"
    [.of "source" Peg.decode, .of "destination" Peg.decode, .of "auxiliary" Peg.decode] draft
  let source ← fieldValue values "source" Peg.decode
  let destination ← fieldValue values "destination" Peg.decode
  let auxiliary ← fieldValue values "auxiliary" Peg.decode
  PegError.orWrong (ofRoles source destination auxiliary)

/-- Reads the three pegs from JSON text. -/
def ofJson (text : String) : Except Problem Pegs :=
  decodeText decode text

end Pegs

namespace Puzzle

/-- Reads a number of disks, of 32 bits. -/
def decodeDisks : Decoder UInt32
  | .number leaf => do
    match ← orFlaw leaf.value with
    | .integer value =>
      if 0 ≤ value ∧ value ≤ 0xffffffff then .ok (UInt32.ofNat value.toNat)
      else wrong (.wrongValue (.integer value) "u32")
    | .real value => wrong (.wrongType (.real value) "u32")
  | draft => mismatch "u32" draft

/-- A puzzle is written with its number of disks and its pegs. -/
def toJson (puzzle : Puzzle) : Json :=
  .object [("disks", .number puzzle.disks.toNat), ("pegs", puzzle.pegs.toJson)]

/-- Reads a puzzle. -/
def decode : Decoder Puzzle := fun draft => do
  let values ← readFields "Puzzle" [.of "disks" decodeDisks, .of "pegs" Pegs.decode] draft
  return ⟨← fieldValue values "disks" decodeDisks, ← fieldValue values "pegs" Pegs.decode⟩

/-- Reads a puzzle from JSON text. -/
def ofJson (text : String) : Except Problem Puzzle :=
  decodeText decode text

end Puzzle

end TowerOfHanoi
