import TowerOfHanoi.Text.Blank

/-!
# Ways of reading a pattern

A pattern can switch between ways of reading what follows. Only some of them decide whether a
text is a pattern; the others (lines, newlines, greed) change what it matches, and are only
checked for being known.

## Main definitions

* `Pattern.Mode`: how a pattern is read.
* `Pattern.Mode.skip`, `Pattern.Mode.peek`: the text behind what is passed over.
* `Pattern.Mode.switch?`: the mode behind some switches.
-/

namespace TowerOfHanoi.Pattern

/-- How a pattern is read. -/
structure Mode where
  /-- A letter stands for itself in either case. -/
  caseless : Bool := false
  /-- A pattern describes characters, and otherwise the bytes of their UTF-8 form. -/
  unicode : Bool := true
  /-- Blanks are passed over, and so is a remark from a number sign to the end of its line. -/
  spaced : Bool := false
  deriving DecidableEq

/-- The text behind blanks and remarks, read from inside a remark or not. -/
def skipSpace : (remark : Bool) → List Char → List Char
  | _, [] => []
  | true, c :: cs => skipSpace (c ≠ '\n') cs
  | false, c :: cs =>
    if Text.isBlank c then skipSpace false cs
    else if c = '#' then skipSpace true cs
    else c :: cs

namespace Mode

/-- The text behind what is passed over. -/
def skip (mode : Mode) (cs : List Char) : List Char :=
  if mode.spaced then skipSpace false cs else cs

/-- The character that decides what a dash means, among those behind it. Of a remark only the sign
that starts it is passed over here, and where nothing else is left the blanks count. -/
def peek (mode : Mode) (cs : List Char) : Option Char :=
  if mode.spaced then
    let behind := match cs.dropWhile Text.isBlank with
      | '#' :: remark => remark.dropWhile Text.isBlank
      | cs => cs
    behind.head?.or cs.head?
  else cs.head?

/-- The letters that switch. -/
def switches : List Char :=
  ['i', 'm', 's', 'U', 'u', 'R', 'x']

/-- Turns one switch on or off. -/
def turn (on : Bool) (mode : Mode) (letter : Char) : Mode :=
  match letter with
  | 'i' => { mode with caseless := on }
  | 'u' => { mode with unicode := on }
  | 'x' => { mode with spaced := on }
  | _ => mode

/-- The mode behind some letters that switch: those in front of a dash turn on, and those behind it
turn off. No letter stands twice, and a dash does not stand last. -/
def switch? (mode : Mode) (letters : List Char) : Option Mode :=
  let on := letters.takeWhile (· ≠ '-')
  let off := (letters.dropWhile (· ≠ '-')).drop 1
  if (on ++ off).all switches.contains && decide (on ++ off).Nodup &&
      letters.getLast? ≠ some '-' then
    some (off.foldl (turn false) (on.foldl (turn true) mode))
  else none

end Mode

end TowerOfHanoi.Pattern
