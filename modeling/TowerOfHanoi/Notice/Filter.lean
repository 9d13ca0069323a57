import TowerOfHanoi.Notice
import TowerOfHanoi.Notice.Demand
import TowerOfHanoi.PuzzleText
import TowerOfHanoi.Text.Alphanumeric

/-!
# Choosing notices

A filter says for each part of the program up to which level its notices are taken. It is
written as directives between commas. A level alone holds for every part, and a part alone takes
all notices of the parts whose names start with it. In full a directive is `part[span]=level` or
`part[span{value}]=level`, where everything but one of the parts may be missing: a directive
with a value and no span is about the notices that carry a value of that name, and one with a
span is about what happens inside that span. Behind the name of a value an equals sign can say
what the value has to be, which is judged for spans only. The program opens no spans, so a
directive about one decides nothing, but it is a directive.

The longest matching part decides, then the directive that asks for a value, and of two
directives for the same notices the later one.

A directive is read character by character, without the blanks around it, and its pieces are cut
out of the text with these blanks: with blanks in front every piece starts that much too early, and
blanks behind belong to the last one. The positions of a cut are counted in bytes, so it can fall
into the middle of a character, and then the reading breaks off.

## Main definitions

* `Directive`, `Filter`: what is let through, with `Filter.admits`.
* `Directive.Phase`, `Directive.step`: how far a directive has been read, and one character more.
* `Directive.ofText`, `Refusal`: the directive that a text denotes, or why it denotes none.
* `Filter.reader`: the reader of directives between commas.
-/

namespace TowerOfHanoi

/-- Which notices are let through. -/
structure Directive where
  /-- The part of the program it is about; without one it is about every part. -/
  origin : Option String
  /-- The value that the notices it is about carry, if it asks for one. -/
  value : Option String
  /-- The most detailed level that it lets through, if it lets anything through. -/
  upTo : Option Level
  deriving DecidableEq

/-- What an observer wants to see. -/
structure Filter where
  /-- Its directives, in the order in which they were given. -/
  directives : List Directive

/-! ### Weighing directives -/

namespace Directive

/-- Whether a directive is about a notice. -/
def covers (directive : Directive) (notice : Notice) : Bool :=
  directive.origin.all (fun start => start.toList.isPrefixOf notice.origin.toList) &&
    directive.value.all notice.carries

/-- How closely a directive describes the parts it is about: the longer the start that they share,
the more. -/
def weight (directive : Directive) : Nat :=
  match directive.origin with
  | some start => start.length + 1
  | none => 0

/-- Whether the first text is not listed behind the second one. -/
def listedUpTo : List Char → List Char → Bool
  | [], _ => true
  | _ :: _, [] => false
  | a :: as, b :: bs => if a = b then listedUpTo as bs else a.toNat < b.toNat

/-- Whether a directive gives way to a later one about the same notice: to one that describes it as
closely or more. Of two that ask for different values the one listed last in a dictionary wins. -/
def yieldsTo (directive later : Directive) : Bool :=
  if directive.weight = later.weight then
    match directive.value, later.value with
    | none, _ => true
    | some _, none => false
    | some value, some laterValue => listedUpTo value.toList laterValue.toList
  else directive.weight < later.weight

end Directive

namespace Filter

/-- The filter that treats every notice alike. -/
def upTo (level : Level) : Filter :=
  ⟨[⟨none, none, some level⟩]⟩

/-- The directive that decides about a notice: of those that cover it the one that no other is
preferred to. -/
def deciding (filter : Filter) (notice : Notice) : Option Directive :=
  filter.directives.foldl (fun found directive =>
    if directive.covers notice && found.all (·.yieldsTo directive) then some directive
    else found) none

/-- Whether a notice is let through. -/
def admits (filter : Filter) (notice : Notice) : Bool :=
  match filter.deciding notice with
  | some ⟨_, _, some upTo⟩ => notice.level.within upTo
  | _ => false

end Filter

/-! ### Levels -/

namespace Level

/-- The levels by number; the outer `none` is a number without a level, the inner one lets nothing
through. -/
def ofNumber? : Nat → Option (Option Level)
  | 0 => some none
  | 1 => some (some error)
  | 2 => some (some warn)
  | 3 => some (some info)
  | 4 => some (some debug)
  | 5 => some (some trace)
  | _ => none

/-- The levels by name, in letters of either case. -/
def ofName? (name : String) : Option (Option Level) :=
  match String.ofList (name.toList.map Char.toLower) with
  | "off" => some none
  | "error" => some (some error)
  | "warn" => some (some warn)
  | "info" => some (some info)
  | "debug" => some (some debug)
  | "trace" => some (some trace)
  | _ => none

/-- The number that digits denote, with a plus sign in front or without one. -/
def number? (cs : List Char) : Option Nat :=
  let digits := match cs with
    | '+' :: digits => digits
    | digits => digits
  if digits.isEmpty then none
  else digits.foldlM (fun number c => (digitValue c).map (10 * number + ·)) 0

/-- The levels as they are written in a directive. -/
def ofWord? (word : String) : Option (Option Level) :=
  match number? word.toList with
  | some number => ofNumber? number
  | none => ofName? word

end Level

/-! ### Cutting by bytes -/

/-- What is left behind so many bytes; nothing if they end inside a character. -/
def dropBytes? : Nat → List Char → Option (List Char)
  | 0, cs => some cs
  | _ + 1, [] => none
  | bytes + 1, c :: cs =>
    if c.utf8Size ≤ bytes + 1 then dropBytes? (bytes + 1 - c.utf8Size) cs else none

/-- The characters in so many bytes; nothing if they end inside a character. -/
def takeBytes? : Nat → List Char → Option (List Char)
  | 0, _ => some []
  | _ + 1, [] => none
  | bytes + 1, c :: cs =>
    if c.utf8Size ≤ bytes + 1 then (takeBytes? (bytes + 1 - c.utf8Size) cs).map (c :: ·) else none

/-! ### Reading -/

/-- Why a text denotes no directive. -/
inductive Refusal
  /-- It is not laid out as one. -/
  | layout
  /-- What it says that a value has to be is refused. -/
  | demand (cause : Pattern.Refusal)
  /-- What stands behind its equals sign is no level. -/
  | level
  deriving DecidableEq

/-- What is said about a refused directive. -/
def Refusal.message : Refusal → String
  | layout => "invalid filter directive"
  | demand cause => "invalid field filter: " ++ cause.message
  | level =>
    "error parsing level filter: expected one of \"off\", \"error\", \"warn\", \"info\", " ++
      "\"debug\", \"trace\", or a number 0-5"

namespace Directive

/-- Why no directive comes of a text. -/
inductive Halt
  /-- The text denotes none. -/
  | refused (refusal : Refusal)
  /-- The reading breaks off at a position in the middle of a character. -/
  | broken (position : Nat)
  deriving DecidableEq

/-- How far a directive has been read. Positions are those from which the next piece is cut. -/
inductive Phase
  /-- Nothing has been met. -/
  | start
  /-- A level or a part. -/
  | word
  /-- The name of a span. -/
  | span (start : Nat)
  /-- A value in braces. -/
  | value (start : Nat)
  /-- What stands behind the braces. -/
  | braced
  /-- What stands behind the brackets. -/
  | closed
  /-- The level behind the equals sign. -/
  | level (start : Nat)
  deriving DecidableEq

/-- A directive in the making. -/
structure Draft where
  /-- How far it has been read. -/
  phase : Phase := .start
  /-- The part of the program it is about. -/
  origin : Option String := none
  /-- What it is about, apart from the part: all notices (`some none`), those with a value of a
  name, or a span and no notice. -/
  subject : Option (Option String) := some none

/-- The directive for a text that is a level or a part alone. -/
def ofWord (word : String) : Directive :=
  match Level.ofWord? word with
  | some upTo => ⟨none, none, upTo⟩
  | none => ⟨some word, none, some .trace⟩

/-- Whether a directive can start with a character, brackets apart. -/
def canStart (c : Char) : Bool :=
  c = '-' || c = ':' || c = '_' || Text.isAlphanumeric c

/-- The piece from a position on. -/
def cutFrom (text : List Char) (start : Nat) : Except Halt (List Char) :=
  match dropBytes? start text with
  | none => .error (.broken start)
  | some rest => .ok rest

/-- The piece between two positions. -/
def cut (text : List Char) (start stop : Nat) : Except Halt (List Char) := do
  match takeBytes? (stop - start) (← cutFrom text start) with
  | none => .error (.broken stop)
  | some piece => .ok piece

/-- What a directive with something in braces is about. What a value has to be stands between the
first equals sign and the second one, and makes the directive one about a span. -/
def readValue (value : List Char) (subject : Option (Option String)) :
    Except Halt (Option (Option String)) :=
  if value.isEmpty then .error (.refused .layout)
  else
    match value.dropWhile (· ≠ '=') with
    | [] => .ok (subject.map fun _ => some (String.ofList value))
    | _ :: demand => do
      (Demand.judge (demand.takeWhile (· ≠ '='))).mapError (.refused ∘ .demand)
      return none

/-- Reads the character at a position. -/
def step (text : List Char) (position : Nat) (draft : Draft) (c : Char) : Except Halt Draft :=
  match draft.phase, c with
  | .start, '[' => .ok { draft with phase := .span (position + 1) }
  | .start, c =>
    if canStart c then .ok { draft with phase := .word } else .error (.refused .layout)
  | .word, '=' => do
    let origin := String.ofList (← cut text 0 position)
    return { draft with phase := .level (position + 1), origin := some origin }
  | .word, '[' => do
    let origin := String.ofList (← cut text 0 position)
    return { draft with phase := .span (position + 1), origin := some origin }
  | .span start, ']' => do
    let _ ← cut text start position
    return { draft with phase := .closed, subject := none }
  | .span start, '\x7b' => do
    let name ← cut text start position
    return { draft with
      phase := .value (position + 1), subject := if name.isEmpty then some none else none }
  | .value start, '\x7d' => do
    let subject ← readValue (← cut text start position) draft.subject
    return { draft with phase := .braced, subject }
  | .braced, ']' => .ok { draft with phase := .closed }
  | .braced, _ => .error (.refused .layout)
  | .closed, '=' => .ok { draft with phase := .level (position + 1) }
  | .closed, _ => .error (.refused .layout)
  | .word, _ => .ok draft
  | .span _, _ => .ok draft
  | .value _, _ => .ok draft
  | .level _, _ => .ok draft

/-- Reads characters from a position on. -/
def steps (text : List Char) : Nat → Draft → List Char → Except Halt Draft
  | _, draft, [] => .ok draft
  | position, draft, c :: cs => do
    steps text (position + c.utf8Size) (← step text position draft c) cs

/-- The directive that has been read, or none if it is about a span. It ends with its level, or lets
everything through where it names none. -/
def finish (text : List Char) (draft : Draft) : Except Halt (Option Directive) :=
  let result (upTo : Option Level) : Option Directive :=
    draft.subject.map fun value => ⟨draft.origin, value, upTo⟩
  match draft.phase with
  | .word => .ok (some (ofWord (String.ofList text)))
  | .closed => .ok (result (some .trace))
  | .level start => do
    let word ← cutFrom text start
    if word.isEmpty then return result (some .trace)
    match Level.ofWord? (String.ofList word) with
    | some upTo => return result upTo
    | none => throw (.refused .level)
  | _ => .error (.refused .layout)

/-- The directive that a text denotes, or the reason why none comes of it. A directive about a span
is left out: one that names a span, or says what a value has to be. -/
def ofText (text : String) : Except Halt (Option Directive) := do
  finish text.toList (← steps text.toList 0 {} (Text.trimChars text.toList))

end Directive

namespace Filter

/-- Reads one more character at the front: a comma ends the piece that starts behind it, and any
other character begins that piece earlier. -/
def addToPieces (c : Char) (read : List Char × List (List Char)) : List Char × List (List Char) :=
  if c = ',' then ([], Text.consWord read.1 read.2) else (c :: read.1, read.2)

/-- The directives between commas; what is empty is none. -/
def pieces (text : String) : List String :=
  let read := text.toList.foldr addToPieces ([], [])
  (Text.consWord read.1 read.2).map String.ofList

/-- What has been read of directives between commas. -/
structure Progress where
  /-- What has been said about those that are refused. -/
  told : String := ""
  /-- Those that are accepted, with nothing in the place of one about a span. -/
  accepted : List (Option Directive) := []

/-- Reads one more directive, and tells why it is refused if it is. -/
def Progress.read (progress : Progress) (piece : String) : Except String Progress :=
  match Directive.ofText piece with
  | .ok directive => .ok { progress with accepted := progress.accepted ++ [directive] }
  | .error (.refused refusal) =>
    .ok { progress with
      told := progress.told ++ "ignoring `" ++ piece ++ "`: " ++ refusal.message ++ "\n" }
  | .error (.broken position) =>
    .error (progress.told ++ "byte index " ++ toString position ++
      " is not a char boundary of `" ++ piece ++ "`\n")

/-- Reads directives between commas. Those that are refused are left out. Without any directive,
everything up to the given level is let through. -/
def reader : Notice.Reader := fun level text => do
  let progress ← (pieces text).foldlM Progress.read {}
  let filter := if progress.accepted.isEmpty then upTo level else ⟨progress.accepted.filterMap id⟩
  return ⟨progress.told, filter.admits⟩

end Filter

end TowerOfHanoi
