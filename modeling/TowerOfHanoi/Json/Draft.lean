import TowerOfHanoi.Decimal.Scaled
import TowerOfHanoi.PuzzleText
import TowerOfHanoi.Text.Hexadecimal

/-!
# JSON text as far as it can be read

A draft is what a JSON text says up to the point where it stops making sense. A text with a flaw
gives a draft too, with the flaw in the place where it shows: as a broken value, a leaf without
a value, or a missing end. Whoever looks through a draft from left to right therefore meets a
value of the wrong kind before a flaw that stands behind it.

## Main definitions

* `Json.Flaw`: text that is no JSON, or that ends too early.
* `Json.Leaf`: a number or a string, which can be used or merely passed over.
* `Json.Draft`: the draft of a value.
* `Json.Draft.ofText`: the draft of a text, and whether anything stands behind it.
* `Json.Draft.pass`: the first flaw of a draft whose value nobody needs.
-/

namespace TowerOfHanoi.Json

/-- What can be wrong with a text. -/
inductive Flaw
  /-- The text cannot be continued to a document. -/
  | malformed
  /-- The text ends before the document does. -/
  | truncated
  deriving DecidableEq

/-- A number or a string. Some leaves can be passed over but have no value, such as a number out
of range or half of a pair of code units. -/
structure Leaf (α : Type) where
  /-- Its value. -/
  value : Except Flaw α
  /-- Whether it can be passed over. -/
  shape : Except Flaw Unit

/-- A number. -/
inductive Number
  /-- A number without fraction and exponent that fits 64 bits. -/
  | integer (value : Int)
  /-- Any other number. -/
  | real (value : Float)

/-- A value as far as it can be read. Behind a comma there is always an item, though it may be
broken. The end of a list or a record is the flaw found where it should be, if there is one. -/
inductive Draft
  | null
  | bool (value : Bool)
  | number (leaf : Leaf Number)
  | string (leaf : Leaf String)
  | array (items : List Draft) (ending : Except Flaw Unit)
  | object (members : List (Leaf String × Draft)) (ending : Except Flaw Unit)
  | broken (flaw : Flaw)

/-- What stands behind something that has been read, or the flaw that ended the reading. -/
abbrev Rest := Except Flaw (List Char)

/-- The characters between tokens. -/
def isSpace (c : Char) : Bool :=
  c = ' ' || c = '\t' || c = '\n' || c = '\r'

/-- Skips the characters between tokens. -/
def skipSpace (cs : List Char) : List Char :=
  cs.dropWhile isSpace

/-- The flaw of a text that goes on in the wrong way, or not at all. -/
def flawAt (cs : List Char) : Flaw :=
  if cs.isEmpty then .truncated else .malformed

/-! ### Words -/

/-- Reads the given characters. -/
def readWord : (word cs : List Char) → Rest
  | [], cs => .ok cs
  | _ :: _, [] => .error .truncated
  | w :: word, c :: cs => if c = w then readWord word cs else .error .malformed

/-! ### Strings -/

/-- A part of a string: a character, or a code unit of sixteen bits written as an escape. -/
inductive Piece
  | char (c : Char)
  | unit (code : Nat)
  deriving DecidableEq

/-- The code unit that four hexadecimal digits denote. -/
def codeUnit (a b c d : Char) : Option Nat := do
  let high := (← Text.hexValue a) * 16 + (← Text.hexValue b)
  let low := (← Text.hexValue c) * 16 + (← Text.hexValue d)
  return high * 256 + low

/-- What a character behind a backslash stands for. -/
def shortEscape (c : Char) : Option Char :=
  match c with
  | '\x22' => some '\x22'
  | '\\' => some '\\'
  | '/' => some '/'
  | 'b' => some '\x08'
  | 'f' => some '\x0c'
  | 'n' => some '\n'
  | 'r' => some '\r'
  | 't' => some '\t'
  | _ => none

/-- The number of bytes that characters take up. -/
def byteCount (cs : List Char) : Nat :=
  cs.foldl (fun count c => count + c.utf8Size) 0

/-- Reads a string up to its closing quote. An escaped code unit needs four bytes of text. -/
def readPieces : List Char → List Piece × Rest
  | [] => ([], .error .truncated)
  | '\x22' :: cs => ([], .ok cs)
  | '\\' :: 'u' :: a :: b :: c :: d :: cs =>
    match codeUnit a b c d with
    | some code =>
      let (pieces, rest) := readPieces cs
      (.unit code :: pieces, rest)
    | none => ([], .error .malformed)
  | '\\' :: 'u' :: cs => ([], .error (if byteCount cs < 4 then .truncated else .malformed))
  | ['\\'] => ([], .error .truncated)
  | '\\' :: c :: cs =>
    match shortEscape c with
    | some meant =>
      let (pieces, rest) := readPieces cs
      (.char meant :: pieces, rest)
    | none => ([], .error .malformed)
  | c :: cs =>
    if c.toNat < 0x20 then ([], .error .malformed)
    else
      let (pieces, rest) := readPieces cs
      (.char c :: pieces, rest)

/-- Whether a code unit is the first half of a pair. -/
def isLeading (code : Nat) : Bool :=
  0xd800 ≤ code && code ≤ 0xdbff

/-- Whether a code unit is the second half of a pair. -/
def isTrailing (code : Nat) : Bool :=
  0xdc00 ≤ code && code ≤ 0xdfff

/-- The characters that the pieces of a string denote. Code units of a pair must stand next to
each other; half a pair at the end is a flaw, unless the text has a flaw of its own there. -/
def joinPieces (ending : Except Flaw Unit) : List Piece → Except Flaw (List Char)
  | [] => ending.map fun _ => []
  | .char c :: pieces => (joinPieces ending pieces).map (c :: ·)
  | .unit first :: .unit second :: pieces =>
    if isTrailing first then .error .malformed
    else if isLeading first then
      if isTrailing second then
        (joinPieces ending pieces).map
          (Char.ofNat (0x10000 + (first - 0xd800) * 0x400 + (second - 0xdc00)) :: ·)
      else .error .malformed
    else (joinPieces ending (.unit second :: pieces)).map (Char.ofNat first :: ·)
  | .unit code :: .char c :: pieces =>
    if isTrailing code || isLeading code then .error .malformed
    else (joinPieces ending (.char c :: pieces)).map (Char.ofNat code :: ·)
  | [.unit code] =>
    if isTrailing code then .error .malformed
    else if isLeading code then
      match ending with
      | .ok () => .error .malformed
      | .error flaw => .error flaw
    else ending.map fun _ => [Char.ofNat code]

/-- Reads a string behind its opening quote. -/
def readString (cs : List Char) : Leaf String × Rest :=
  let (pieces, rest) := readPieces cs
  let shape := rest.map fun _ => ()
  (⟨(joinPieces shape pieces).map String.ofList, shape⟩, rest)

/-! ### Numbers -/

/-- Splits the digits off the front. -/
def spanDigits : List Char → List Nat × List Char
  | [] => ([], [])
  | c :: cs =>
    match digitValue c with
    | some digit =>
      let (digits, rest) := spanDigits cs
      (digit :: digits, rest)
    | none => ([], c :: cs)

/-- A number as it is written. -/
structure Numeral where
  /-- Whether it starts with a minus sign. -/
  negative : Bool
  /-- The digits in front of the point. -/
  whole : List Nat
  /-- The digits behind the point, if there is one. -/
  fraction : Option (List Nat)
  /-- The sign and the digits of the exponent, if there is one. -/
  exponent : Option (Bool × List Nat)

/-- Reads digits of which there must be at least one. -/
def readDigits1 (cs : List Char) : Except Flaw (List Nat × List Char) :=
  match spanDigits cs with
  | ([], rest) => .error (flawAt rest)
  | (digits, rest) => .ok (digits, rest)

/-- Reads the digits in front of the point: zero stands alone. -/
def readWhole (cs : List Char) : Except Flaw (List Nat × List Char) := do
  match ← readDigits1 cs with
  | (0 :: _ :: _, _) => throw .malformed
  | read => return read

/-- Reads a point with the digits behind it, if there is one. -/
def readFraction : List Char → Except Flaw (Option (List Nat) × List Char)
  | '.' :: cs => do
    let (digits, rest) ← readDigits1 cs
    return (some digits, rest)
  | cs => return (none, cs)

/-- Reads an exponent, if there is one. -/
def readExponent : List Char → Except Flaw (Option (Bool × List Nat) × List Char)
  | c :: cs => do
    if c = 'e' || c = 'E' then
      let (negative, digits) := match cs with
        | '-' :: ds => (true, ds)
        | '+' :: ds => (false, ds)
        | ds => (false, ds)
      let (digits, rest) ← readDigits1 digits
      return (some (negative, digits), rest)
    else return (none, c :: cs)
  | [] => return (none, [])

/-- Reads a number as it is written, behind its sign. -/
def readNumeral (negative : Bool) (cs : List Char) : Except Flaw (Numeral × List Char) := do
  let (whole, cs) ← readWhole cs
  let (fraction, cs) ← readFraction cs
  let (exponent, cs) ← readExponent cs
  return (⟨negative, whole, fraction, exponent⟩, cs)

/-- The number that digits denote. -/
def ofDigits (digits : List Nat) : Nat :=
  digits.foldl (fun value digit => 10 * value + digit) 0

/-- The number that a numeral denotes, as an integer if it is written as one and fits 64 bits with
its sign. Minus zero is no integer. A number too large for a double is a flaw. -/
def Numeral.value (numeral : Numeral) : Except Flaw Number :=
  let whole := Decimal.Significand.ofWhole numeral.whole
  let sign (x : Float) : Number := .real (if numeral.negative then -x else x)
  let scaled (significand : Decimal.Significand) : Except Flaw Number :=
    match Decimal.scale significand with
    | some x => .ok (sign x)
    | none => .error .malformed
  match numeral.fraction, numeral.exponent with
  | none, none =>
    if whole.exponent = 0 then
      if !numeral.negative then .ok (.integer whole.value)
      else if 0 < whole.value ∧ whole.value ≤ maxInt64 + 1 then .ok (.integer (-whole.value))
      else .ok (sign whole.value.toUInt64.toFloat)
    else scaled whole
  | fraction, exponent =>
    let significand := whole.addFraction (fraction.getD [])
    let shift : Int := match exponent with
      | some (true, digits) => -ofDigits digits
      | some (false, digits) => ofDigits digits
      | none => 0
    scaled ⟨significand.value, significand.exponent + shift⟩

/-- Reads a number behind its sign. An unfinished number that is passed over is malformed, even at
the end of the text. -/
def readNumber (negative : Bool) (cs : List Char) : Leaf Number × Rest :=
  match readNumeral negative cs with
  | .ok (numeral, rest) => (⟨numeral.value, .ok ()⟩, .ok rest)
  | .error flaw => (⟨.error flaw, .error .malformed⟩, .error flaw)

/-! ### Values -/

mutual

/-- Reads a value. A value takes one step, and so does the list or the record around it, and each
uses up some text; so two steps for each character are fuel enough. -/
def readValue : (fuel : Nat) → List Char → Draft × Rest
  | 0, _ => (.broken .malformed, .error .malformed)
  | fuel + 1, cs =>
    let word (text : String) (draft : Draft) (cs : List Char) : Draft × Rest :=
      match readWord text.toList cs with
      | .ok rest => (draft, .ok rest)
      | .error flaw => (.broken flaw, .error flaw)
    match cs with
    | [] => (.broken .truncated, .error .truncated)
    | c :: rest =>
      match c with
      | 'n' => word "ull" .null rest
      | 't' => word "rue" (.bool true) rest
      | 'f' => word "alse" (.bool false) rest
      | '\x22' =>
        let (leaf, rest) := readString rest
        (.string leaf, rest)
      | '-' =>
        let (leaf, rest) := readNumber true rest
        (.number leaf, rest)
      | '[' =>
        match skipSpace rest with
        | [] => (.array [] (.error .truncated), .error .truncated)
        | ']' :: rest => (.array [] (.ok ()), .ok rest)
        | rest =>
          let (items, rest) := readItems fuel rest
          (.array items (rest.map fun _ => ()), rest)
      | '\x7b' =>
        match skipSpace rest with
        | '\x7d' :: rest => (.object [] (.ok ()), .ok rest)
        | rest =>
          let (members, rest) := readMembers fuel rest
          (.object members (rest.map fun _ => ()), rest)
      | c =>
        if (digitValue c).isSome then
          let (leaf, rest) := readNumber false (c :: rest)
          (.number leaf, rest)
        else (.broken .malformed, .error .malformed)

/-- Reads the items of a list up to its end. -/
def readItems : (fuel : Nat) → List Char → List Draft × Rest
  | 0, _ => ([], .error .malformed)
  | fuel + 1, cs =>
    match readValue fuel cs with
    | (item, .error flaw) => ([item], .error flaw)
    | (item, .ok rest) =>
      match skipSpace rest with
      | ']' :: rest => ([item], .ok rest)
      | ',' :: rest =>
        let (items, rest) := readItems fuel (skipSpace rest)
        (item :: items, rest)
      | rest => ([item], .error (flawAt rest))

/-- Reads the members of a record up to its end. -/
def readMembers : (fuel : Nat) → List Char → List (Leaf String × Draft) × Rest
  | 0, _ => ([], .error .malformed)
  | fuel + 1, cs =>
    match cs with
    | '\x22' :: rest =>
      let (name, rest) := readString rest
      match rest with
      | .error flaw => ([(name, .broken flaw)], .error flaw)
      | .ok rest =>
        match skipSpace rest with
        | ':' :: rest =>
          match readValue fuel (skipSpace rest) with
          | (value, .error flaw) => ([(name, value)], .error flaw)
          | (value, .ok rest) =>
            match skipSpace rest with
            | '\x7d' :: rest => ([(name, value)], .ok rest)
            | ',' :: rest =>
              let (members, rest) := readMembers fuel (skipSpace rest)
              ((name, value) :: members, rest)
            | rest => ([(name, value)], .error (flawAt rest))
        | rest => ([(name, .broken (flawAt rest))], .error (flawAt rest))
    | cs => ([], .error (flawAt cs))

end

namespace Draft

/-- The draft of a text, and the flaw of anything but spaces behind it. -/
def ofText (text : String) : Draft × Except Flaw Unit :=
  let cs := text.toList
  let (draft, rest) := readValue (2 * cs.length + 1) (skipSpace cs)
  (draft, rest.bind fun rest => if (skipSpace rest).isEmpty then .ok () else .error .malformed)

mutual

/-- Passes over a value: the first flaw that shows when its leaves are not used. -/
def pass : Draft → Except Flaw Unit
  | null => .ok ()
  | bool _ => .ok ()
  | number leaf => leaf.shape
  | string leaf => leaf.shape
  | array items ending => (passItems items).bind fun _ => ending
  | object members ending => (passMembers members).bind fun _ => ending
  | broken flaw => .error flaw

/-- Passes over the items of a list. -/
def passItems : List Draft → Except Flaw Unit
  | [] => .ok ()
  | item :: items => (pass item).bind fun _ => passItems items

/-- Passes over the members of a record. -/
def passMembers : List (Leaf String × Draft) → Except Flaw Unit
  | [] => .ok ()
  | (name, value) :: members =>
    name.shape.bind fun _ => (pass value).bind fun _ => passMembers members

end

end Draft

end TowerOfHanoi.Json
