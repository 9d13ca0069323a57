/-!
# Text without control sequences

Arguments that a message repeats may hold sequences that a terminal would obey. Where the message
does not go to a terminal they are left out: controls other than line breaks and tabs, and
whatever belongs to a sequence started by the escape character.

A terminal reads bytes, so a character beyond ASCII acts on a sequence by the bytes of its UTF-8
form. Only one of them matters: the terminator `0x9c`, which ends content that is passed on.

A tab or a line break among the characters of a sequence is obeyed at once, and the text behind
it is shown. The sequence is only interrupted: the next character that is not shown takes it up
again, unless a character beyond ASCII has been shown in between.

## Main definitions

* `Text.Sequence`, `Text.Sequence.step`: where a reader of terminal text stands, and what a
  character leads to.
* `Text.Sequence.stepShown`: the same while text is shown.
* `Text.plain`: a text without control sequences.
-/

namespace TowerOfHanoi.Text

/-- Where a reader of terminal text stands. -/
inductive Sequence
  /-- In plain text. -/
  | none
  /-- Behind the escape character. -/
  | escape
  /-- Among the further characters of a short sequence. -/
  | short
  /-- In a sequence with parameters. -/
  | control
  /-- At the start of the head of a string for the device. -/
  | device
  /-- Among the parameters in the head of a string for the device. -/
  | parameters
  /-- Among the marks that close the head of a string for the device. -/
  | marks
  /-- In content that is passed on, up to its terminator. -/
  | passed
  /-- In a string for the terminal, which an alarm ends. -/
  | string
  deriving DecidableEq

/-- Whether a control is shown: a tab, a line break, a new page, or a return. -/
def isLayoutControl (c : Char) : Bool :=
  c = '\t' || c = '\n' || c = '\x0c' || c = '\r'

/-- Whether the UTF-8 form of a character holds the terminator of passed content. -/
def holdsTerminator (c : Char) : Bool :=
  (String.utf8EncodeChar c).contains 0x9c

/-- Where a printed character in the head of a string for the device leads to: marks stay behind
the parameters, a parameter may start with a private mark, and the content starts behind the
first character that cannot stand where it does. Controls and characters beyond ASCII change
nothing. -/
def Sequence.stepHead (state : Sequence) (n : Nat) : Sequence :=
  if n < 0x20 || 0x7e < n then state
  else if n ≤ 0x2f then marks
  else if state = marks then passed
  else if n ≤ 0x3b || (state = device && n ≤ 0x3f) then parameters
  else passed

/-- Whether a character is shown where no sequence is open: everything but controls other than
tabs and line breaks. -/
def isShown (c : Char) : Bool :=
  isLayoutControl c || (0x20 ≤ c.toNat && c.toNat ≠ 0x7f)

/-- What a character leads to where text is not shown yet: the state behind it, and whether the
character itself is shown. -/
def Sequence.step (state : Sequence) (c : Char) : Sequence × Bool :=
  let n := c.toNat
  if n = 0x1b then (escape, false)
  else if n = 0x18 || n = 0x1a then (none, false)
  else
    match state with
    | none => (none, isShown c)
    | escape =>
      if isLayoutControl c then (escape, true)
      else if c = '[' then (control, false)
      else if c = ']' then (string, false)
      else if c = 'P' then (device, false)
      else if c = 'X' || c = '^' || c = '_' then (passed, false)
      else if 0x20 ≤ n && n ≤ 0x2f then (short, false)
      else if 0x30 ≤ n && n ≤ 0x7e then (none, false)
      else (escape, false)
    | short =>
      if isLayoutControl c then (short, true)
      else if 0x30 ≤ n && n ≤ 0x7e then (none, false)
      else (short, false)
    | control =>
      if isLayoutControl c then (control, true)
      else if 0x40 ≤ n && n ≤ 0x7e then (none, false)
      else (control, false)
    | device => (stepHead device n, false)
    | parameters => (stepHead parameters n, false)
    | marks => (stepHead marks n, false)
    | passed => (if holdsTerminator c then none else passed, false)
    | string => (if n = 0x07 then none else string, false)

/-- What a character leads to while text is shown: the sequence that is taken up again behind the
text, and whether the character itself is shown. -/
def Sequence.stepShown (state : Sequence) (c : Char) : Sequence × Bool :=
  if isShown c then (if c.toNat < 0x80 then state else none, true)
  else state.step c

/-- The characters that are shown, read from the given state on, given whether the one in front of
them is shown. -/
def plainChars : (shown : Bool) → Sequence → List Char → List Char
  | _, _, [] => []
  | shown, state, c :: cs =>
    let (state, shown) := if shown then state.stepShown c else state.step c
    if shown then c :: plainChars true state cs else plainChars false state cs

/-- A text without control sequences. -/
def plain (text : String) : String :=
  String.ofList (plainChars false .none text.toList)

end TowerOfHanoi.Text
