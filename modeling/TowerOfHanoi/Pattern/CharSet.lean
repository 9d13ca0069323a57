import TowerOfHanoi.Pattern.Atom

/-!
# Sets of characters in patterns

A set stands in brackets and lists characters, ranges, classes and further sets; operators form
the common part, the difference or the symmetric difference of what stands on either side. Where
the list starts, dashes and a closing bracket stand for themselves.

No set is ever asked for its members here, so of a set that has been read only the nesting is
kept.

## Main definitions

* `Pattern.CharSet`: a set, as far as its nesting goes, with `Pattern.CharSet.depth`.
* `Pattern.openSet?`, `Pattern.readSet`: read a set.
-/

namespace TowerOfHanoi.Pattern

/-- What stands between the brackets of a set, as far as its nesting goes. -/
inductive CharSet
  /-- Nothing. -/
  | empty
  /-- A character, a range or a class. -/
  | single
  /-- Several members. -/
  | union (members : List CharSet)
  /-- A set in brackets of its own. -/
  | nested (content : CharSet)
  /-- An operator with what stands on either side. -/
  | combined (left right : CharSet)

namespace CharSet

mutual

/-- How deeply a set is nested. -/
def depth : CharSet → Nat
  | empty => 0
  | single => 0
  | union members => membersDepth members + 1
  | nested content => content.depth + 1
  | combined left right => max left.depth right.depth + 1

/-- How deeply the deepest of some members is nested. -/
def membersDepth : List CharSet → Nat
  | [] => 0
  | member :: members => max member.depth (membersDepth members)

end

/-- The set with the given members. -/
def ofMembers : List CharSet → CharSet
  | [] => empty
  | [member] => member
  | members => union members

end CharSet

/-! ### Open sets -/

/-- A set whose closing bracket has not been met. -/
structure OpenSet where
  /-- What is listed behind the last operator, the last one first. -/
  members : List CharSet := []
  /-- What stands in front of the last operator, if there is one. -/
  left : Option CharSet := none
  /-- Whether nothing but dashes at the start has been listed. -/
  start : Bool := true

namespace OpenSet

/-- Lists one more member. -/
def add (set : OpenSet) (member : CharSet) (start : Bool) : OpenSet :=
  { set with members := member :: set.members, start }

/-- What has been read so far. -/
def content (set : OpenSet) : CharSet :=
  let right := CharSet.ofMembers set.members.reverse
  match set.left with
  | none => right
  | some left => .combined left right

/-- Goes on behind an operator. -/
def operate (set : OpenSet) : OpenSet :=
  ⟨[], some set.content, false⟩

end OpenSet

/-! ### Tokens -/

/-- What comes next in a set. -/
inductive SetToken
  /-- A character, a range or a class. -/
  | member
  /-- The bracket that opens a set. -/
  | opening
  /-- The bracket that closes the set. -/
  | closing
  /-- An operator. -/
  | operator
  deriving DecidableEq

/-- The classes of ASCII that are known by name. -/
def classNames : List String :=
  ["alnum", "alpha", "ascii", "blank", "cntrl", "digit", "graph", "lower", "print", "punct",
    "space", "upper", "word", "xdigit"]

/-- Reads a class by its name between colons from behind its opening bracket: whether everything
outside it is meant, and the text behind it. Anything else is no class but a set. -/
def readClass : List Char → Option (Bool × List Char)
  | ':' :: cs =>
    let negated := cs.head? == some '^'
    let cs := if negated then cs.drop 1 else cs
    match cs.dropWhile (· ≠ ':') with
    | ':' :: ']' :: rest =>
      if classNames.contains (String.ofList (cs.takeWhile (· ≠ ':'))) then some (negated, rest)
      else none
    | _ => none
  | _ => none

/-- The text behind the bracket that opens a set and the mark that inverts it. An inverted set of
bytes holds parts of characters, and is not supported. -/
def openSet? (mode : Mode) (cs : List Char) : Option (List Char) :=
  match mode.skip cs with
  | '^' :: rest => if mode.unicode then some rest else none
  | rest => some rest

/-- Reads a character, a class that is known by a letter, or a range. -/
def readRange (mode : Mode) (cs : List Char) : Option (List Char) := do
  let (first, rest) ← readMember mode cs
  let single := if mode.supportsMember first then some (mode.skip rest) else none
  match mode.skip rest with
  | '-' :: behind =>
    if mode.peek behind = some ']' || mode.peek behind = some '-' then single
    else
      match first, ← readMember mode (mode.skip behind) with
      | .char low lowByte, (.char high highByte, rest) =>
        if low ≤ high && mode.supportsMember (.char low lowByte) &&
            mode.supportsMember (.char high highByte) then some rest
        else none
      | _, _ => none
  | _ => single

/-- Reads what comes next in a set. -/
def readToken (mode : Mode) (set : OpenSet) (cs : List Char) : Option (SetToken × List Char) :=
  match cs with
  | [] => none
  | c :: rest =>
    if set.start && (c = '-' || (c = ']' && set.members.isEmpty)) then
      if mode.supportsMember (.char c false) then some (.member, rest) else none
    else if c = ']' then some (.closing, rest)
    else if c = '[' then
      match readClass rest with
      | some (negated, rest) => if mode.supportsClass negated then some (.member, rest) else none
      | none => (openSet? mode rest).map (.opening, ·)
    else if (c = '&' || c = '-' || c = '~') && rest.head? = some c then
      some (.operator, rest.drop 1)
    else (readRange mode cs).map (.member, ·)

/-! ### Reading -/

/-- Reads a set with the sets around it, the innermost one first. Each token uses up some text, so
as many steps as there are characters are fuel enough. -/
def readSet (mode : Mode) : (fuel : Nat) → OpenSet → List OpenSet → List Char →
    Option (CharSet × List Char)
  | 0, _, _, _ => none
  | fuel + 1, set, outer, cs => do
    let cs := mode.skip cs
    match ← readToken mode set cs with
    | (.member, rest) =>
      readSet mode fuel (set.add .single (set.start && cs.head? = some '-')) outer rest
    | (.opening, rest) => readSet mode fuel {} ({ set with start := false } :: outer) rest
    | (.operator, rest) => readSet mode fuel set.operate outer rest
    | (.closing, rest) =>
      match outer with
      | [] => some (set.content, rest)
      | around :: outer => readSet mode fuel (around.add (.nested set.content) false) outer rest

end TowerOfHanoi.Pattern
