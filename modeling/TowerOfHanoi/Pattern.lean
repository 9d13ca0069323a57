import TowerOfHanoi.Pattern.CharSet
import TowerOfHanoi.Text.Alphanumeric

/-!
# Patterns

What a value has to look like is written as a pattern: a regular expression as it can stand in a
directive, without commas, equals signs and closing braces. Whether a text is a pattern shows
before anything is compared with it, and nothing is compared here, so a pattern that has been
read is kept in outline only.

A count of repetitions ends with a brace, so no text here holds one, and an opening brace is
refused wherever it would start one.

## Main definitions

* `Pattern.Outline`: the parts of a pattern, with `Pattern.Outline.depth` and
  `Pattern.Outline.usesWords`.
* `Pattern.Reader`: what has been read of a pattern, and how it goes on.
* `Pattern.judge`, `Pattern.Refusal`: whether a text is a pattern that can be used, and why not.
-/

namespace TowerOfHanoi.Pattern

/-! ### Outlines -/

/-- The parts of a pattern. -/
inductive Outline
  /-- Nothing. -/
  | empty
  /-- Switches for what follows. -/
  | switches
  /-- A character, a class or a place; `words` says that it is a place that is told by the words
  around it, in any script. -/
  | atom (words : Bool)
  /-- A set in brackets. -/
  | set (content : CharSet)
  /-- Something that may be repeated. -/
  | repeated (body : Outline)
  /-- A pattern in parentheses. -/
  | group (body : Outline)
  /-- Several parts, one behind the other. -/
  | sequence (parts : List Outline)
  /-- Several patterns of which one is to match. -/
  | choice (branches : List Outline)

namespace Outline

mutual

/-- How deeply a pattern is nested. -/
def depth : Outline → Nat
  | empty => 0
  | switches => 0
  | atom _ => 0
  | set content => content.depth + 1
  | repeated body => body.depth + 1
  | group body => body.depth + 1
  | sequence parts => partsDepth parts + 1
  | choice branches => partsDepth branches + 1

/-- How deeply the deepest of some patterns is nested. -/
def partsDepth : List Outline → Nat
  | [] => 0
  | part :: parts => max part.depth (partsDepth parts)

end

mutual

/-- Whether a pattern has to tell words in any script. -/
def usesWords : Outline → Bool
  | empty => false
  | switches => false
  | atom words => words
  | set _ => false
  | repeated body => body.usesWords
  | group body => body.usesWords
  | sequence parts => anyUsesWords parts
  | choice branches => anyUsesWords branches

/-- Whether one of some patterns has to tell words in any script. -/
def anyUsesWords : List Outline → Bool
  | [] => false
  | part :: parts => part.usesWords || anyUsesWords parts

end

/-- The parts one behind the other. -/
def ofParts : List Outline → Outline
  | [] => empty
  | [part] => part
  | parts => sequence parts

end Outline

/-! ### Groups -/

/-- A group that has been opened and not closed, or else the pattern as a whole. -/
structure OpenGroup where
  /-- How the text is read from here on. -/
  mode : Mode := {}
  /-- The parts of the branch that is being read, the last one first. -/
  parts : List Outline := []
  /-- The branches in front of it, the last one first. -/
  branches : List Outline := []

namespace OpenGroup

/-- Adds a part. -/
def add (opened : OpenGroup) (part : Outline) : OpenGroup :=
  { opened with parts := part :: opened.parts }

/-- The branch that is being read. -/
def branch (opened : OpenGroup) : Outline :=
  .ofParts opened.parts.reverse

/-- Starts another branch. -/
def next (opened : OpenGroup) : OpenGroup :=
  { opened with parts := [], branches := opened.branch :: opened.branches }

/-- What has been read so far. -/
def outline (opened : OpenGroup) : Outline :=
  match opened.branches with
  | [] => opened.branch
  | branches => .choice (opened.branch :: branches).reverse

/-- Repeats the last part. There has to be one, and switches cannot be repeated. -/
def repeatLast (opened : OpenGroup) : Option OpenGroup :=
  match opened.parts with
  | [] => none
  | .switches :: _ => none
  | part :: parts => some { opened with parts := .repeated part :: parts }

end OpenGroup

/-- What stands behind an opening parenthesis. -/
inductive Opening
  /-- A group, which may have a name, and how it is read. -/
  | group (name : Option (List Char)) (mode : Mode)
  /-- Switches for what follows, and how that is read. -/
  | switches (mode : Mode)

/-- Whether characters can name a group. -/
def isGroupName : List Char → Bool
  | [] => false
  | c :: cs =>
    (c = '_' || Text.isAlphabetic c) &&
      cs.all fun c => c = '_' || c = '.' || c = '[' || c = ']' || Text.isAlphanumeric c

/-- Reads the name of a group up to the angle bracket that closes it. -/
def readName (mode : Mode) (cs : List Char) : Option (Opening × List Char) :=
  let name := cs.takeWhile (· ≠ '>')
  match cs.dropWhile (· ≠ '>') with
  | _ :: rest => if isGroupName name then some (.group (some name) mode, rest) else none
  | [] => none

/-- Reads switches up to the colon or the parenthesis behind them. Without any there is a group. -/
def readSwitches (mode : Mode) (cs : List Char) : Option (Opening × List Char) := do
  let letters := cs.takeWhile fun c => c ≠ ':' && c ≠ ')'
  let switched ← mode.switch? letters
  match cs.dropWhile fun c => c ≠ ':' && c ≠ ')' with
  | ':' :: rest => some (.group none switched, rest)
  | ')' :: rest => if letters.isEmpty then none else some (.switches switched, rest)
  | _ => none

/-- Reads what stands behind an opening parenthesis. -/
def readOpening (mode : Mode) (cs : List Char) : Option (Opening × List Char) :=
  match mode.skip cs with
  | '?' :: 'P' :: '<' :: rest => readName mode rest
  | '?' :: '<' :: rest => readName mode rest
  | '?' :: rest => readSwitches mode rest
  | rest => some (.group none mode, rest)

/-! ### Reading -/

/-- What has been read of a pattern. -/
structure Reader where
  /-- The innermost group that is open. -/
  opened : OpenGroup := {}
  /-- The groups around it, the innermost one first. -/
  outer : List OpenGroup := []
  /-- The names that have been given to groups. -/
  names : List (List Char) := []

namespace Reader

/-- Adds a part. -/
def add (reader : Reader) (part : Outline) : Reader :=
  { reader with opened := reader.opened.add part }

/-- Goes on behind an opening parenthesis. A name is given once. -/
def openGroup (reader : Reader) : Opening → Option Reader
  | .switches mode =>
    some { reader with opened := { reader.opened.add .switches with mode } }
  | .group name mode =>
    if name.any reader.names.contains then none
    else some ⟨{ mode }, reader.opened :: reader.outer, name.toList ++ reader.names⟩

/-- Goes on behind a closing parenthesis, in the mode in front of the group. -/
def closeGroup (reader : Reader) : Option Reader :=
  match reader.outer with
  | [] => none
  | around :: outer =>
    some { reader with opened := around.add (.group reader.opened.outline), outer }

/-- Reads an atom. -/
def readPart (reader : Reader) (c : Char) (cs : List Char) : Option (Reader × List Char) := do
  let mode := reader.opened.mode
  let (atom, rest) ← readAtom mode c cs
  if mode.supports atom then
    some (reader.add (.atom (mode.unicode && atom = .boundary)), rest)
  else none

/-- Reads what comes next, given its first character. -/
def step (reader : Reader) (c : Char) (cs : List Char) : Option (Reader × List Char) :=
  let mode := reader.opened.mode
  match c with
  | '(' => do
    let (opening, rest) ← readOpening mode cs
    return (← reader.openGroup opening, rest)
  | ')' => reader.closeGroup.map (·, cs)
  | '|' => some ({ reader with opened := reader.opened.next }, cs)
  | '[' => do
    let rest ← openSet? mode cs
    let (content, rest) ← readSet mode (rest.length + 1) {} [] rest
    return (reader.add (.set content), rest)
  | '?' | '*' | '+' => do
    let opened ← reader.opened.repeatLast
    return ({ reader with opened }, if cs.head? = some '?' then cs.drop 1 else cs)
  | '\x7b' => none
  | c => reader.readPart c cs

/-- Reads a pattern to its end. Each step uses up some text, so as many steps as there are
characters are fuel enough. -/
def run : (fuel : Nat) → Reader → List Char → Option Outline
  | 0, _, _ => none
  | fuel + 1, reader, cs =>
    match reader.opened.mode.skip cs with
    | [] => if reader.outer.isEmpty then some reader.opened.outline else none
    | c :: cs => do
      let (reader, rest) ← reader.step c cs
      run fuel reader rest

end Reader

/-! ### Judging -/

/-- Why a text is no pattern that can be used. -/
inductive Refusal
  /-- It is no pattern, or needs to know more about characters than is known here. -/
  | unreadable
  /-- It has to tell words in any script. -/
  | words
  deriving DecidableEq

/-- What is said about a text that is refused. -/
def Refusal.message : Refusal → String
  | unreadable => "error building NFA"
  | words =>
    "unsupported regex feature for DFAs: cannot build DFAs for regexes with Unicode word " ++
      "boundaries; switch to ASCII word boundaries, or heuristically enable Unicode word " ++
      "boundaries or use a different regex engine"

/-- How deeply a pattern can be nested. -/
def maxDepth : Nat := 250

/-- Whether a text is a pattern that can be used. -/
def judge (cs : List Char) : Except Refusal Unit :=
  match Reader.run (cs.length + 1) {} cs with
  | none => .error .unreadable
  | some outline =>
    if maxDepth < outline.depth then .error .unreadable
    else if outline.usesWords then .error .words
    else .ok ()

end TowerOfHanoi.Pattern
