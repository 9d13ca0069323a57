import TowerOfHanoi.Pattern.Mode
import TowerOfHanoi.Text.Hexadecimal

/-!
# Atoms of patterns

The smallest parts of a pattern are characters, classes of characters, and places between
characters. Most characters stand for themselves, and a backslash gives others a meaning or takes
it away.

Nothing is known here about characters beyond ASCII: neither their cases nor the classes that
they belong to. A pattern of characters that would need it is not supported, and neither is a
pattern of bytes that could match a part of the UTF-8 form of a character.

## Main definitions

* `Pattern.Atom`: the smallest parts of a pattern.
* `Pattern.readAtom`, `Pattern.readEscape`: read one.
* `Pattern.Mode.supports`, `Pattern.Mode.supportsMember`: which of them are supported.
-/

namespace TowerOfHanoi.Pattern

/-- A smallest part of a pattern. -/
inductive Atom
  /-- A character. One that is written as two hexadecimal digits can denote a byte. -/
  | char (c : Char) (byte : Bool)
  /-- Any character. -/
  | any
  /-- The characters of a class that is known by a letter, or all others. -/
  | known (negated : Bool)
  /-- A place at an end of the text or of a line. -/
  | ending
  /-- A place that is told by the words around it. -/
  | boundary
  deriving DecidableEq

/-! ### Reading -/

/-- Reads so many hexadecimal digits behind those that denote `value`. -/
def readHex (mode : Mode) : (count value : Nat) → List Char → Option (Nat × List Char)
  | 0, value, cs => some (value, cs)
  | _ + 1, _, [] => none
  | count + 1, value, c :: cs =>
    (Text.hexValue c).bind fun digit => readHex mode count (16 * value + digit) (mode.skip cs)

/-- Reads a character by the digits of its code point. -/
def readCode (mode : Mode) (count : Nat) (byte : Bool) (cs : List Char) :
    Option (Atom × List Char) := do
  let (code, rest) ← readHex mode count 0 (mode.skip cs)
  if code.isValidChar then some (.char (Char.ofNat code) byte, rest) else none

/-- What a character behind a backslash means. Every character of ASCII but letters, digits and
angle brackets then stands for itself. -/
def escaped? (c : Char) : Option Atom :=
  match c with
  | 'd' | 's' | 'w' => some (.known false)
  | 'D' | 'S' | 'W' => some (.known true)
  | 'a' => some (.char '\x07' false)
  | 'f' => some (.char '\x0c' false)
  | 't' => some (.char '\t' false)
  | 'n' => some (.char '\n' false)
  | 'r' => some (.char '\r' false)
  | 'v' => some (.char '\x0b' false)
  | 'A' | 'z' => some .ending
  | 'b' | 'B' | '<' | '>' => some .boundary
  | c => if c.toNat < 0x80 && !c.isAlphanum then some (.char c false) else none

/-- Reads what stands behind a backslash. -/
def readEscape (mode : Mode) : List Char → Option (Atom × List Char)
  | [] => none
  | 'x' :: cs => readCode mode 2 true cs
  | 'u' :: cs => readCode mode 4 false cs
  | 'U' :: cs => readCode mode 8 false cs
  | c :: cs => (escaped? c).map (·, cs)

/-- Reads an atom outside sets, given its first character. -/
def readAtom (mode : Mode) (c : Char) (cs : List Char) : Option (Atom × List Char) :=
  match c with
  | '\\' => readEscape mode cs
  | '.' => some (.any, cs)
  | '^' | '$' => some (.ending, cs)
  | c => some (.char c false, cs)

/-- Reads an atom inside a set, where only the backslash is special. -/
def readMember (mode : Mode) : List Char → Option (Atom × List Char)
  | [] => none
  | '\\' :: cs => readEscape mode cs
  | c :: cs => some (.char c false, cs)

/-! ### Support -/

namespace Mode

/-- Whether an atom outside sets is supported. -/
def supports (mode : Mode) : Atom → Bool
  | .char c byte => if mode.unicode then !mode.caseless else !byte || c.toNat < 0x80
  | .any => mode.unicode
  | .known negated => !mode.unicode && !negated
  | .ending => true
  | .boundary => true

/-- Whether an atom inside a set is supported. A place is no member of a set. -/
def supportsMember (mode : Mode) : Atom → Bool
  | .char c _ => if mode.unicode then !mode.caseless else c.toNat < 0x80
  | .known negated => !mode.unicode && !negated
  | _ => false

/-- Whether a class of ASCII inside a set, or everything outside it, is supported. -/
def supportsClass (mode : Mode) (negated : Bool) : Bool :=
  if mode.unicode then !mode.caseless else !negated

end Mode

end TowerOfHanoi.Pattern
