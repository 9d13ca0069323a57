import TowerOfHanoi.PuzzleText
import TowerOfHanoi.Text.Plain

/-!
# Command line arguments

The arguments are read from left to right: a token for the number of disks, the three pegs as
options with a value, and flags. The value of an option is the text behind its equals sign, or
the next argument. In the second case the value waits until the next thing that is understood,
and is judged then; an argument that is not understood is reported without judging it. Behind
two dashes every argument is a token.

A word that starts with a dash and reads on like a number is a token as long as the number of
disks has not been given.

## Main definitions

* `Role`: the options for the pegs.
* `Options`: what the arguments ask for.
* `UsageError`: why arguments are refused, with its message.
* `readArguments`: reads the arguments.
-/

namespace TowerOfHanoi.CommandLine

/-- An option that sets the peg of a role. -/
inductive Role
  | source
  | destination
  | auxiliary
  deriving DecidableEq

/-- The name of the option, without dashes. -/
def Role.name : Role → String
  | source => "from"
  | destination => "to"
  | auxiliary => "via"

/-- The option as messages show it, with a word for its value. -/
def Role.usage : Role → String
  | source => "--from <FROM>"
  | destination => "--to <TO>"
  | auxiliary => "--via <VIA>"

/-- What the arguments ask for. -/
structure Options where
  /-- The token for the number of disks; without it the puzzle is read from the input. -/
  disks : Option String := none
  /-- The peg to start from, if it is set. -/
  source : Option Peg := none
  /-- The peg to end on, if it is set. -/
  destination : Option Peg := none
  /-- The peg to go by, if it is set. -/
  auxiliary : Option Peg := none
  /-- Whether the solution is reported as JSON. -/
  json : Bool := false
  /-- How many times more detail has been asked for. -/
  verbosity : Nat := 0

namespace Options

/-- The peg that is set for a role. -/
def peg? (options : Options) : Role → Option Peg
  | .source => options.source
  | .destination => options.destination
  | .auxiliary => options.auxiliary

/-- Sets the peg for a role. -/
def setPeg (options : Options) (role : Role) (peg : Peg) : Options :=
  match role with
  | .source => { options with source := some peg }
  | .destination => { options with destination := some peg }
  | .auxiliary => { options with auxiliary := some peg }

end Options

/-- Why arguments are refused. -/
inductive UsageError
  /-- The value of an option is no peg. -/
  | invalidValue (role : Role) (value : String) (error : PegError)
  /-- An option without its value. -/
  | missingValue (role : Role)
  /-- An option or a flag, shown as it is used, that has been given before. -/
  | repeated (usage : String)
  /-- A value for a flag that takes none. -/
  | needlessValue (value usage : String)
  /-- An argument that is not understood. -/
  | unexpected (argument : String)
  deriving DecidableEq

/-- The message for refused arguments. What it repeats of them is plain text: a control sequence
ends with the argument that it stands in. -/
def UsageError.message : UsageError → String
  | invalidValue role value error =>
    "invalid value '" ++ Text.plain value ++ "' for '" ++ role.usage ++ "': " ++ error.message
  | missingValue role => "a value is required for '" ++ role.usage ++ "' but none was supplied"
  | repeated usage => "the argument '" ++ usage ++ "' cannot be used multiple times"
  | needlessValue value usage =>
    "unexpected value '" ++ Text.plain value ++ "' for '" ++ usage ++
      "' found; no more were expected"
  | unexpected argument => "unexpected argument '" ++ Text.plain argument ++ "' found"

/-- Why no options come out of the arguments. -/
inductive Stop
  /-- The arguments are refused. -/
  | refused (error : UsageError)
  /-- They ask for help. -/
  | help
  /-- They ask for the version. -/
  | version
  deriving DecidableEq

/-! ### Single arguments -/

/-- An argument by its form. -/
inductive Argument
  /-- Two dashes alone. -/
  | separator
  /-- A name behind two dashes, with the value behind its equals sign. -/
  | long (name : String) (value : Option String)
  /-- Letters behind one dash. -/
  | short (letters : List Char)
  /-- Anything else. -/
  | token (text : String)
  deriving DecidableEq

/-- Splits a text at its first equals sign. -/
def splitValue (cs : List Char) : String × Option String :=
  match cs.dropWhile (· ≠ '=') with
  | [] => (String.ofList cs, none)
  | _ :: value => (String.ofList (cs.takeWhile (· ≠ '=')), some (String.ofList value))

/-- The form of an argument. -/
def Argument.ofText (text : String) : Argument :=
  match text.toList with
  | ['-', '-'] => .separator
  | '-' :: '-' :: cs =>
    let (name, value) := splitValue cs
    .long name value
  | '-' :: c :: cs => .short (c :: cs)
  | _ => .token text

/-- Whether characters read on like a number behind a minus sign: digits, with one point that is
neither first nor behind the exponent mark, and one exponent mark that is neither first nor
last. -/
def readsAsNumber (cs : List Char) : Bool :=
  go true false false cs
where
  /-- The rest of the number, given whether it is the start and what has been seen. -/
  go (first point mark : Bool) : List Char → Bool
    | [] => true
    | c :: cs =>
      if (digitValue c).isSome then go false point mark cs
      else if c = '.' then !first && !point && !mark && go false true mark cs
      else if c = 'e' || c = 'E' then !first && !mark && !cs.isEmpty && go false point true cs
      else false

/-! ### Reading -/

/-- What has been read so far. -/
structure Progress where
  /-- The options set so far. -/
  options : Options := {}
  /-- The option that waits to be judged, with its value if that has been met. -/
  waiting : Option (Role × Option String) := none

namespace Progress

/-- Sets the peg of a role, which must not have been set before. -/
def assign (options : Options) (role : Role) (value : String) : Except Stop Options :=
  if (options.peg? role).isSome then .error (.refused (.repeated role.usage))
  else
    match Peg.ofToken value with
    | .ok peg => .ok (options.setPeg role peg)
    | .error error => .error (.refused (.invalidValue role value error))

/-- Judges the option that waits. -/
def settle (progress : Progress) : Except Stop Options :=
  match progress.waiting with
  | none => .ok progress.options
  | some (role, none) => .error (.refused (.missingValue role))
  | some (role, some value) => assign progress.options role value

/-- Takes an option for a peg, with the value behind its equals sign if there is one. -/
def option (progress : Progress) (role : Role) (value : Option String) :
    Except Stop Progress := do
  let options ← progress.settle
  match value with
  | some value => return { options := ← assign options role value }
  | none => return { options, waiting := some (role, none) }

/-- Takes a flag that changes the options. -/
def flag (progress : Progress) (change : Options → Except Stop Options) :
    Except Stop Progress := do
  return { options := ← change (← progress.settle) }

/-- Asks for JSON, at most once. -/
def askJson (options : Options) : Except Stop Options :=
  if options.json then .error (.refused (.repeated "--json"))
  else .ok { options with json := true }

/-- Asks for more detail. -/
def askDetail (options : Options) : Except Stop Options :=
  .ok { options with verbosity := options.verbosity + 1 }

/-- Stops reading, once the option that waits is judged. -/
def stop (progress : Progress) (reason : Stop) : Except Stop Progress := do
  let _ ← progress.settle
  throw reason

/-- Takes a flag by its name, or an option. -/
def long (progress : Progress) (name : String) (value : Option String) : Except Stop Progress :=
  match name, value with
  | "from", value => progress.option .source value
  | "to", value => progress.option .destination value
  | "via", value => progress.option .auxiliary value
  | "json", none => progress.flag askJson
  | "json", some value => .error (.refused (.needlessValue value "--json"))
  | "verbose", none => progress.flag askDetail
  | "verbose", some value => .error (.refused (.needlessValue value "--verbose..."))
  | "help", none => progress.stop .help
  | "help", some value => .error (.refused (.needlessValue value "--help"))
  | "version", none => progress.stop .version
  | "version", some value => .error (.refused (.needlessValue value "--version"))
  | name, _ => .error (.refused (.unexpected ("--" ++ name)))

/-- Takes flags by their letters. -/
def short (progress : Progress) : List Char → Except Stop Progress
  | [] => .ok progress
  | 'v' :: letters => do short (← progress.flag askDetail) letters
  | 'h' :: _ => progress.stop .help
  | 'V' :: _ => progress.stop .version
  | c :: _ => .error (.refused (.unexpected (String.ofList ['-', c])))

/-- Takes the number of disks, at most once. -/
def disks (progress : Progress) (text : String) : Except Stop Progress :=
  if progress.options.disks.isSome then .error (.refused (.unexpected text))
  else do
    let options ← progress.settle
    return { options := { options with disks := some text } }

/-- Takes a token: the value of the option that waits for one, or the number of disks. -/
def token (progress : Progress) (text : String) : Except Stop Progress :=
  match progress.waiting with
  | some (role, none) => .ok { progress with waiting := some (role, some text) }
  | _ => progress.disks text

/-- Takes one argument in front of the two dashes. -/
def argument (progress : Progress) (text : String) : Argument → Except Stop Progress
  | .separator => .ok progress
  | .long name value => progress.long name value
  | .short letters =>
    if progress.options.disks.isNone && readsAsNumber letters then progress.token text
    else progress.short letters
  | .token text => progress.token text

/-- Takes the remaining arguments, of which those behind two dashes are tokens. -/
def read : (behindDashes : Bool) → Progress → List String → Except Stop Options
  | _, progress, [] => progress.settle
  | true, progress, text :: texts => do read true (← progress.disks text) texts
  | false, progress, text :: texts => do
    let form := Argument.ofText text
    read (form = .separator) (← progress.argument text form) texts

end Progress

/-- Reads the arguments. -/
def readArguments (arguments : List String) : Except Stop Options :=
  Progress.read false {} arguments

end TowerOfHanoi.CommandLine
